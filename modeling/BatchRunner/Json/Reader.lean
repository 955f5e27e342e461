/-
**Readers, and how they combine.**

A reader takes a value from the front of a text and always consumes something.  Lists and objects
are read with one reader per element; a value of the wrong kind is read as far as needed to name it.

Main definitions:

* `Json.Reader` — a reading function together with the fact that it consumes;
* `Json.Reader.list`, `Json.Reader.entries` — comma-separated elements in brackets or braces;
* `Json.member` — a member of a catalog, as a string or as a one-key object;
* `Json.wrongKind` — the refusal of a value of another kind;
* `Json.decode` — a whole text as one value.
-/
import BatchRunner.Catalog
import BatchRunner.Json.Literal
import BatchRunner.Json.Numeral

set_option autoImplicit false

namespace BatchRunner.Json

/-- Reads the rest of a word that has begun. -/
def readWord : List Char → Cursor → Except Fault Cursor
  | [], c => .ok c
  | x :: xs, c =>
      match c.next? with
      | none => c.failHere .endInValue
      | some y => if x = y then readWord xs c.skip else c.failAhead .badIdent

/-- **The refusal of a value that is not of the wanted kind.**  The value is read first, so that it
can be named; lists and objects are named by their opening bracket alone. -/
def wrongKind (wanted : String) (c : Cursor) : Fault :=
  let refuse (r : Except Fault (Kind × Cursor)) : Fault :=
    match r with
    | .error f => f
    | .ok (k, c') => ⟨.badKind k wanted, c'.here⟩
  let word (w : List Char) (k : Kind) : Fault := refuse ((readWord w c.skip).map (k, ·))
  match c.next? with
  | some 'n' => word ['u', 'l', 'l'] .null
  | some 't' => word ['r', 'u', 'e'] (.boolean true)
  | some 'f' => word ['a', 'l', 's', 'e'] (.boolean false)
  | some '-' => refuse (readNumber true c.skip)
  | some '"' => refuse ((readText c.skip).map fun (xs, c') => (.text (String.ofList xs), c'))
  | some '[' => ⟨.badKind .sequence wanted, c.here⟩
  | some '\x7b' => ⟨.badKind .map wanted, c.here⟩
  | some x => if (digit? x).isSome then refuse (readNumber false c) else ⟨.badValue, c.ahead⟩
  | none => ⟨.badValue, c.ahead⟩

/-- A reading function that consumes at least one character. -/
structure Reader (α : Type) where
  run : Cursor → Except Fault (α × Cursor)
  consumes : ∀ {c c' : Cursor} {x : α}, run c = .ok (x, c') → c'.rest.length < c.rest.length

/-! ### Punctuation -/

/-- Reads the colon between a key and its value. -/
def readColon (c : Cursor) : Except Fault Cursor :=
  let c := c.skipBlanks
  match c.next? with
  | some ':' => .ok c.skip
  | some _ => c.failAhead .noColon
  | none => c.failAhead .endInObject

theorem readColon_le {c c' : Cursor} (h : readColon c = .ok c') :
    c'.rest.length ≤ c.rest.length := by
  unfold readColon at h
  simp only at h
  split at h
  · obtain rfl : c.skipBlanks.skip = c' := by simpa using h
    exact Nat.le_trans (length_skip_le _) (Cursor.length_skipBlanks_le _)
  · simp [Cursor.failAhead] at h
  · simp [Cursor.failAhead] at h

/-- Moves to the next element of a list, if there is one.  Every element but the first has a comma
in front. -/
def nextElement (first : Bool) (c : Cursor) : Except Fault (Bool × Cursor) :=
  let c := c.skipBlanks
  match c.next? with
  | none => c.failAhead .endInList
  | some ']' => .ok (false, c)
  | some x =>
      if first then .ok (true, c)
      else if x = ',' then
        let c := c.skip.skipBlanks
        match c.next? with
        | none => c.failAhead .endInValue
        | some ']' => c.failAhead .trailingComma
        | some _ => .ok (true, c)
      else c.failAhead .noListComma

/-- Moves to the opening quote of the next key of an object, if there is one. -/
def nextKey (first : Bool) (c : Cursor) : Except Fault (Bool × Cursor) :=
  let c := c.skipBlanks
  match c.next? with
  | none => c.failAhead .endInObject
  | some '\x7d' => .ok (false, c)
  | some x =>
      if first then
        if x = '"' then .ok (true, c) else c.failAhead .badKey
      else if x = ',' then
        let c := c.skip.skipBlanks
        match c.next? with
        | none => c.failAhead .endInValue
        | some '"' => .ok (true, c)
        | some '\x7d' => c.failAhead .trailingComma
        | some _ => c.failAhead .badKey
      else c.failAhead .noObjectComma

theorem length_skip_skipBlanks_le (c : Cursor) :
    c.skipBlanks.skip.skipBlanks.rest.length ≤ c.rest.length :=
  Nat.le_trans (Cursor.length_skipBlanks_le _)
    (Nat.le_trans (length_skip_le _) (Cursor.length_skipBlanks_le _))

theorem nextElement_le {first : Bool} {c c' : Cursor} {more : Bool}
    (h : nextElement first c = .ok (more, c')) : c'.rest.length ≤ c.rest.length := by
  unfold nextElement at h
  simp only at h
  split at h
  · simp [Cursor.failAhead] at h
  · obtain ⟨-, rfl⟩ : _ ∧ c.skipBlanks = c' := by simpa using h
    exact Cursor.length_skipBlanks_le _
  · split at h
    · obtain ⟨-, rfl⟩ : _ ∧ c.skipBlanks = c' := by simpa using h
      exact Cursor.length_skipBlanks_le _
    · split at h
      · split at h
        · simp [Cursor.failAhead] at h
        · simp [Cursor.failAhead] at h
        · obtain ⟨-, rfl⟩ : _ ∧ c.skipBlanks.skip.skipBlanks = c' := by simpa using h
          exact length_skip_skipBlanks_le c
      · simp [Cursor.failAhead] at h

theorem nextKey_le {first : Bool} {c c' : Cursor} {more : Bool}
    (h : nextKey first c = .ok (more, c')) : c'.rest.length ≤ c.rest.length := by
  unfold nextKey at h
  simp only at h
  split at h
  · simp [Cursor.failAhead] at h
  · obtain ⟨-, rfl⟩ : _ ∧ c.skipBlanks = c' := by simpa using h
    exact Cursor.length_skipBlanks_le _
  · split at h
    · split at h
      · obtain ⟨-, rfl⟩ : _ ∧ c.skipBlanks = c' := by simpa using h
        exact Cursor.length_skipBlanks_le _
      · simp [Cursor.failAhead] at h
    · split at h
      · split at h
        · simp [Cursor.failAhead] at h
        · obtain ⟨-, rfl⟩ : _ ∧ c.skipBlanks.skip.skipBlanks = c' := by simpa using h
          exact length_skip_skipBlanks_le c
        · simp [Cursor.failAhead] at h
        · simp [Cursor.failAhead] at h
      · simp [Cursor.failAhead] at h

/-! ### Lists and objects -/

/-- Reads the elements of a list from behind its opening bracket to behind its closing one. -/
def readElements {α : Type} (item : Reader α) (first : Bool) (c : Cursor) :
    Except Fault (List α × Cursor) :=
  match _hn : nextElement first c with
  | .error f => .error f
  | .ok (false, c₁) => .ok ([], c₁.skip)
  | .ok (true, c₁) =>
      match _hi : item.run c₁ with
      | .error f => .error f
      | .ok (x, c₂) =>
          match readElements item false c₂ with
          | .error f => .error f
          | .ok (xs, c₃) => .ok (x :: xs, c₃)
termination_by c.rest.length
decreasing_by exact Nat.lt_of_lt_of_le (item.consumes _hi) (nextElement_le _hn)

/-- Reads the entries of an object from behind its opening brace to behind its closing one. -/
def readEntries {κ α : Type} (key : Reader κ) (item : Reader α) (first : Bool) (c : Cursor) :
    Except Fault (List (κ × α) × Cursor) :=
  match _hn : nextKey first c with
  | .error f => .error f
  | .ok (false, c₁) => .ok ([], c₁.skip)
  | .ok (true, c₁) =>
      match _hk : key.run c₁ with
      | .error f => .error f
      | .ok (k, c₂) =>
          match _hc : readColon c₂ with
          | .error f => .error f
          | .ok c₃ =>
              match _hi : item.run c₃ with
              | .error f => .error f
              | .ok (x, c₄) =>
                  match readEntries key item false c₄ with
                  | .error f => .error f
                  | .ok (xs, c₅) => .ok ((k, x) :: xs, c₅)
termination_by c.rest.length
decreasing_by
  have h₁ := nextKey_le _hn
  have h₂ := key.consumes _hk
  have h₃ := readColon_le _hc
  have h₄ := item.consumes _hi
  omega

theorem readElements_of_more {α : Type} {item : Reader α} {first : Bool} {c c₁ c₂ c₃ : Cursor}
    {x : α} {xs : List α} (hn : nextElement first c = .ok (true, c₁))
    (hi : item.run c₁ = .ok (x, c₂)) (hr : readElements item false c₂ = .ok (xs, c₃)) :
    readElements item first c = .ok (x :: xs, c₃) := by
  rw [readElements]
  split <;> simp_all
  split <;> simp_all

theorem readEntries_of_more {κ α : Type} {key : Reader κ} {item : Reader α} {first : Bool}
    {c c₁ c₂ c₃ c₄ c₅ : Cursor} {k : κ} {x : α} {xs : List (κ × α)}
    (hn : nextKey first c = .ok (true, c₁)) (hk : key.run c₁ = .ok (k, c₂))
    (hc : readColon c₂ = .ok c₃) (hi : item.run c₃ = .ok (x, c₄))
    (hr : readEntries key item false c₄ = .ok (xs, c₅)) :
    readEntries key item first c = .ok ((k, x) :: xs, c₅) := by
  rw [readEntries]
  split <;> simp_all
  split <;> simp_all
  split <;> simp_all
  split <;> simp_all

theorem readElements_le {α : Type} {item : Reader α} {first : Bool} {c c' : Cursor} {xs : List α}
    (h : readElements item first c = .ok (xs, c')) : c'.rest.length ≤ c.rest.length := by
  fun_induction readElements item first c generalizing xs c' with
  | case1 => simp at h
  | case2 first c c₁ hn =>
      obtain ⟨-, rfl⟩ : _ ∧ c₁.skip = c' := by simpa using h
      exact Nat.le_trans (length_skip_le _) (nextElement_le hn)
  | case3 => simp at h
  | case4 => simp at h
  | case5 first c c₁ hn x c₂ hi ys c₃ hr ih =>
      obtain ⟨-, rfl⟩ : _ ∧ c₃ = c' := by simpa using h
      exact Nat.le_trans (ih hr) (Nat.le_of_lt (Nat.lt_of_lt_of_le (item.consumes hi)
        (nextElement_le hn)))

theorem readEntries_le {κ α : Type} {key : Reader κ} {item : Reader α} {first : Bool}
    {c c' : Cursor} {xs : List (κ × α)} (h : readEntries key item first c = .ok (xs, c')) :
    c'.rest.length ≤ c.rest.length := by
  fun_induction readEntries key item first c generalizing xs c' with
  | case1 => simp at h
  | case2 first c c₁ hn =>
      obtain ⟨-, rfl⟩ : _ ∧ c₁.skip = c' := by simpa using h
      exact Nat.le_trans (length_skip_le _) (nextKey_le hn)
  | case3 => simp at h
  | case4 => simp at h
  | case5 => simp at h
  | case6 => simp at h
  | case7 first c c₁ hn k c₂ hk c₃ hc x c₄ hi ys c₅ hr ih =>
      obtain ⟨-, rfl⟩ : _ ∧ c₅ = c' := by simpa using h
      have h₁ := nextKey_le hn
      have h₂ := key.consumes hk
      have h₃ := readColon_le hc
      have h₄ := item.consumes hi
      have h₅ := ih hr
      omega

def Reader.list {α : Type} (item : Reader α) (wanted : String) : Reader (List α) where
  run c :=
    let c := c.skipBlanks
    match c.next? with
    | none => c.failAhead .endInValue
    | some '[' => readElements item true c.skip
    | some _ => .error (wrongKind wanted c)
  consumes {c c' x} h := by
    simp only at h
    split at h
    · simp [Cursor.failAhead] at h
    · next hx =>
        exact Nat.lt_of_lt_of_le (Nat.lt_of_le_of_lt (readElements_le h) (Cursor.length_skip_lt hx))
          (Cursor.length_skipBlanks_le c)
    · simp at h

/-- An object whose entries are kept in order, repeated keys included. -/
def Reader.entries {κ α : Type} (key : Reader κ) (item : Reader α) (wanted : String) :
    Reader (List (κ × α)) where
  run c :=
    let c := c.skipBlanks
    match c.next? with
    | none => c.failAhead .endInValue
    | some '\x7b' => readEntries key item true c.skip
    | some _ => .error (wrongKind wanted c)
  consumes {c c' x} h := by
    simp only at h
    split at h
    · simp [Cursor.failAhead] at h
    · next hx =>
        exact Nat.lt_of_lt_of_le (Nat.lt_of_le_of_lt (readEntries_le h) (Cursor.length_skip_lt hx))
          (Cursor.length_skipBlanks_le c)
    · simp at h

/-! ### Members of a catalog -/

/-- Reads the name of a member from behind its opening quote. -/
def readName (α : Type) [Catalog α] (c : Cursor) : Except Fault (α × Cursor) :=
  match readText c with
  | .error f => .error f
  | .ok (xs, c') =>
      match (Catalog.ofName? (String.ofList xs) : Option α) with
      | some x => .ok (x, c')
      | none => c'.failHere (.unknownMember (String.ofList xs) (Catalog.names α))

/-- Reads the `null` that goes with a member written as an object. -/
def readNull (c : Cursor) : Except Fault Cursor :=
  let c := c.skipBlanks
  match c.next? with
  | none => c.failAhead .endInValue
  | some 'n' => readWord ['u', 'l', 'l'] c.skip
  | some _ => .error (wrongKind "unit" c)

/-- Reads the brace that closes a member written as an object. -/
def readMemberEnd (c : Cursor) : Except Fault Cursor :=
  let c := c.skipBlanks
  match c.next? with
  | none => c.failHere .endInObject
  | some '\x7d' => .ok c.skip
  | some _ => c.failHere .badValue

/-- Reads a member written as an object, from behind its opening brace. -/
def readTagged (α : Type) [Catalog α] (c : Cursor) : Except Fault (α × Cursor) :=
  let c := c.skipBlanks
  match c.next? with
  | none => c.failAhead .endInObject
  | some '\x7d' => c.failAhead .badValue
  | some '"' =>
      match readName α c.skip with
      | .error f => .error f
      | .ok (x, c₁) =>
          match readColon c₁ with
          | .error f => .error f
          | .ok c₂ =>
              match readNull c₂ with
              | .error f => .error f
              | .ok c₃ =>
                  match readMemberEnd c₃ with
                  | .error f => .error f
                  | .ok c₄ => .ok (x, c₄)
  | some _ => c.failAhead .badKey

theorem readName_lt {α : Type} [Catalog α] {c c' : Cursor} {x : α}
    (h : readName α c = .ok (x, c')) : c'.rest.length < c.rest.length := by
  unfold readName at h
  split at h
  · simp at h
  · next hr =>
      split at h
      · obtain ⟨-, rfl⟩ : _ ∧ _ = c' := by simpa using h
        exact readText_lt hr
      · simp [Cursor.failHere] at h

theorem readWord_le {xs : List Char} {c c' : Cursor} (h : readWord xs c = .ok c') :
    c'.rest.length ≤ c.rest.length := by
  induction xs generalizing c with
  | nil =>
      obtain rfl : c = c' := by simpa [readWord] using h
      exact Nat.le_refl _
  | cons x xs ih =>
      unfold readWord at h
      split at h
      · simp [Cursor.failHere] at h
      · split at h
        · exact Nat.le_trans (ih h) (length_skip_le c)
        · simp [Cursor.failAhead] at h

theorem readNull_le {c c' : Cursor} (h : readNull c = .ok c') :
    c'.rest.length ≤ c.rest.length := by
  unfold readNull at h
  simp only at h
  split at h
  · simp [Cursor.failAhead] at h
  · exact Nat.le_trans (readWord_le h) (Nat.le_trans (length_skip_le _)
      (Cursor.length_skipBlanks_le c))
  · simp at h

theorem readMemberEnd_le {c c' : Cursor} (h : readMemberEnd c = .ok c') :
    c'.rest.length ≤ c.rest.length := by
  unfold readMemberEnd at h
  simp only at h
  split at h
  · simp [Cursor.failHere] at h
  · obtain rfl : c.skipBlanks.skip = c' := by simpa using h
    exact Nat.le_trans (length_skip_le _) (Cursor.length_skipBlanks_le c)
  · simp [Cursor.failHere] at h

theorem readTagged_le {α : Type} [Catalog α] {c c' : Cursor} {x : α}
    (h : readTagged α c = .ok (x, c')) : c'.rest.length ≤ c.rest.length := by
  unfold readTagged at h
  simp only at h
  split at h
  · simp [Cursor.failAhead] at h
  · simp [Cursor.failAhead] at h
  · split at h
    · simp at h
    · next h₁ =>
        split at h
        · simp at h
        · next h₂ =>
            split at h
            · simp at h
            · next h₃ =>
                split at h
                · simp at h
                · next h₄ =>
                    obtain ⟨-, rfl⟩ : _ ∧ _ = c' := by simpa using h
                    have := readName_lt h₁
                    have := readColon_le h₂
                    have := readNull_le h₃
                    have := readMemberEnd_le h₄
                    have := length_skip_le c.skipBlanks
                    have := Cursor.length_skipBlanks_le c
                    omega
  · simp [Cursor.failAhead] at h

/-- **A member of a catalog**, written as its name or as an object with the name as its one key and
`null` as its value. -/
def member (α : Type) [Catalog α] : Reader α where
  run c :=
    let c := c.skipBlanks
    match c.next? with
    | none => c.failAhead .endInValue
    | some '"' => readName α c.skip
    | some '\x7b' => readTagged α c.skip
    | some _ => c.failAhead .badValue
  consumes {c c' x} h := by
    simp only at h
    have blanks := Cursor.length_skipBlanks_le c
    split at h
    · simp [Cursor.failAhead] at h
    · next hx =>
        have := readName_lt h
        have := Cursor.length_skip_lt hx
        omega
    · next hx =>
        have := readTagged_le h
        have := Cursor.length_skip_lt hx
        omega
    · simp [Cursor.failAhead] at h

/-- A member of a catalog as a key: its name alone, in front of whose quote the reader stands. -/
def memberKey (α : Type) [Catalog α] : Reader α where
  run c :=
    match c.next? with
    | none => c.failAhead .endInValue
    | some _ => readName α c.skip
  consumes {c c' x} h := by
    split at h
    · simp [Cursor.failAhead] at h
    · next hx => exact Nat.lt_trans (readName_lt h) (Cursor.length_skip_lt hx)

/-! ### Whole texts -/

/-- Refuses anything but blanks. -/
def readEnd (c : Cursor) : Except Fault Unit :=
  let c := c.skipBlanks
  if c.rest = [] then .ok () else c.failAhead .trailingCharacters

/-- **A whole text as one value.** -/
def decode {α : Type} (read : Cursor → Except Fault (α × Cursor)) (text : String) :
    Except Fault α :=
  match read (Cursor.ofText text) with
  | .error f => .error f
  | .ok (x, c) =>
      match readEnd c with
      | .error f => .error f
      | .ok () => .ok x

end BatchRunner.Json
