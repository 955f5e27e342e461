/-
**String literals.**

A literal is read unit by unit: a plain character, a short escape, or one or two hexadecimal
escapes, until the closing quote.

Main definitions:

* `Json.readUnit` — one unit of a literal, or its closing quote;
* `Json.readText` — the characters up to the closing quote.

Main results:

* `Json.readUnit_lt`, `Json.readText_lt` — what is read is at least one character.
-/
import BatchRunner.Json.Fault

set_option autoImplicit false

namespace BatchRunner.Json

/-- The value of a hexadecimal digit of either case. -/
def hexValue? (c : Char) : Option Nat :=
  if '0' ≤ c ∧ c ≤ '9' then some (c.toNat - '0'.toNat)
  else if 'a' ≤ c ∧ c ≤ 'f' then some (c.toNat - 'a'.toNat + 10)
  else if 'A' ≤ c ∧ c ≤ 'F' then some (c.toNat - 'A'.toNat + 10)
  else none

/-- The value of four hexadecimal digits. -/
def quadValue? (a b c d : Char) : Option Nat := do
  let w ← hexValue? a
  let x ← hexValue? b
  let y ← hexValue? c
  let z ← hexValue? d
  return ((w * 16 + x) * 16 + y) * 16 + z

/-- The value of the next four characters, if they are hexadecimal digits. -/
def Cursor.quad? (c : Cursor) : Option Nat :=
  match c.rest with
  | w :: x :: y :: z :: _ => quadValue? w x y z
  | _ => none

/-- Past four characters. -/
def Cursor.skip4 (c : Cursor) : Cursor := c.skip.skip.skip.skip

/-- Reads four hexadecimal digits.  Four bytes are taken before they are looked at; if there are
not as many, the text has ended. -/
def readQuad (c : Cursor) : Except Fault (Nat × Cursor) :=
  match c.quad? with
  | some n => .ok (n, c.skip4)
  | none =>
      if c.bytesLeft < 4 then .error ⟨.endInString, c.afterBytes c.bytesLeft⟩
      else .error ⟨.badEscape, c.afterBytes 4⟩

/-- Whether a code unit is the first half of a pair. -/
def isHighSurrogate (n : Nat) : Bool := 0xd800 ≤ n && n ≤ 0xdbff

/-- Whether a code unit is the second half of a pair. -/
def isLowSurrogate (n : Nat) : Bool := 0xdc00 ≤ n && n ≤ 0xdfff

/-- Consumes the given character, which has to follow the first half of a pair. -/
def expectInPair (x : Char) (c : Cursor) : Except Fault Cursor :=
  match c.rest with
  | [] => c.failHere .endInString
  | y :: _ => if y = x then .ok c.skip else c.failAhead .halfSurrogate

/-- Reads the rest of a hexadecimal escape: a code unit of its own, or a pair of halves. -/
def readHexEscape (c : Cursor) : Except Fault (Char × Cursor) := do
  let (n, c) ← readQuad c
  if isLowSurrogate n then c.failHere .loneSurrogate
  else if isHighSurrogate n then do
    let c ← expectInPair '\\' c
    let c ← expectInPair 'u' c
    let (m, c) ← readQuad c
    if isLowSurrogate m then
      .ok (Char.ofNat ((n - 0xd800) * 0x400 + (m - 0xdc00) + 0x10000), c)
    else c.failHere .loneSurrogate
  else .ok (Char.ofNat n, c)

/-- The character a short escape stands for. -/
def shortEscape? : Char → Option Char
  | '"' => some '"'
  | '\\' => some '\\'
  | '/' => some '/'
  | 'b' => some '\x08'
  | 'f' => some '\x0c'
  | 'n' => some '\n'
  | 'r' => some '\r'
  | 't' => some '\t'
  | _ => none

def readEscape (c : Cursor) : Except Fault (Char × Cursor) :=
  match c.rest with
  | [] => c.failHere .endInString
  | 'u' :: _ => readHexEscape c.skip
  | x :: _ =>
      match shortEscape? x with
      | some y => .ok (y, c.skip)
      | none => c.failAhead .badEscape

/-- Reads one unit of a literal; `none` is its closing quote. -/
def readUnit (c : Cursor) : Except Fault (Option Char × Cursor) :=
  match c.rest with
  | [] => c.failHere .endInString
  | '"' :: _ => .ok (none, c.skip)
  | '\\' :: _ => do
      let (x, c) ← readEscape c.skip
      .ok (some x, c)
  | x :: _ => if x.toNat < 0x20 then c.failAhead .controlInString else .ok (some x, c.skip)

/-! ### What is left to read -/

theorem length_skip_le (c : Cursor) : c.skip.rest.length ≤ c.rest.length := by
  obtain ⟨rest, here⟩ := c
  cases rest <;> simp [Cursor.skip]

theorem length_skip4_le (c : Cursor) : c.skip4.rest.length ≤ c.rest.length :=
  Nat.le_trans (Nat.le_trans (length_skip_le _) (length_skip_le _))
    (Nat.le_trans (length_skip_le _) (length_skip_le _))

theorem readQuad_le {c c' : Cursor} {n : Nat} (h : readQuad c = .ok (n, c')) :
    c'.rest.length ≤ c.rest.length := by
  unfold readQuad at h
  split at h
  · obtain ⟨-, rfl⟩ : _ ∧ c.skip4 = c' := by simpa using h
    exact length_skip4_le c
  · split at h <;> simp at h

theorem expectInPair_le {x : Char} {c c' : Cursor} (h : expectInPair x c = .ok c') :
    c'.rest.length ≤ c.rest.length := by
  unfold expectInPair at h
  split at h
  · simp [Cursor.failHere] at h
  · split at h
    · obtain rfl : c.skip = c' := by simpa using h
      exact length_skip_le c
    · simp [Cursor.failAhead] at h

theorem readHexEscape_le {c c' : Cursor} {x : Char} (h : readHexEscape c = .ok (x, c')) :
    c'.rest.length ≤ c.rest.length := by
  obtain ⟨⟨n, c₁⟩, h₁, h⟩ := ok_of_bind h
  have le₁ := readQuad_le h₁
  simp only at h
  split at h
  · simp [Cursor.failHere] at h
  · split at h
    · obtain ⟨c₂, h₂, h⟩ := ok_of_bind h
      obtain ⟨c₃, h₃, h⟩ := ok_of_bind h
      obtain ⟨⟨m, c₄⟩, h₄, h⟩ := ok_of_bind h
      have le₂ := expectInPair_le h₂
      have le₃ := expectInPair_le h₃
      have le₄ := readQuad_le h₄
      simp only at h
      split at h
      · obtain ⟨-, rfl⟩ : _ ∧ c₄ = c' := by simpa using h
        omega
      · simp [Cursor.failHere] at h
    · obtain ⟨-, rfl⟩ : _ ∧ c₁ = c' := by simpa using h
      exact le₁

theorem readEscape_le {c c' : Cursor} {x : Char} (h : readEscape c = .ok (x, c')) :
    c'.rest.length ≤ c.rest.length := by
  unfold readEscape at h
  split at h
  · simp [Cursor.failHere] at h
  · exact Nat.le_trans (readHexEscape_le h) (length_skip_le c)
  · split at h
    · obtain ⟨-, rfl⟩ : _ ∧ c.skip = c' := by simpa using h
      exact length_skip_le c
    · simp [Cursor.failAhead] at h

/-- A unit of a literal is at least one character long. -/
theorem readUnit_lt {c c' : Cursor} {o : Option Char} (h : readUnit c = .ok (o, c')) :
    c'.rest.length < c.rest.length := by
  have skip_lt : ∀ {x : Char} {xs : List Char}, c.rest = x :: xs →
      c.skip.rest.length < c.rest.length := by
    intro x xs hx
    exact Cursor.length_skip_lt (x := x) (by simp [Cursor.next?, hx])
  unfold readUnit at h
  split at h
  · simp [Cursor.failHere] at h
  · next hx =>
      obtain ⟨-, rfl⟩ : _ ∧ c.skip = c' := by simpa using h
      exact skip_lt hx
  · next hx =>
      obtain ⟨⟨y, c₁⟩, h₁, h⟩ := ok_of_bind h
      obtain ⟨-, rfl⟩ : _ ∧ c₁ = c' := by simpa using h
      exact Nat.lt_of_le_of_lt (readEscape_le h₁) (skip_lt hx)
  · next hx =>
      split at h
      · simp [Cursor.failAhead] at h
      · obtain ⟨-, rfl⟩ : _ ∧ c.skip = c' := by simpa using h
        exact skip_lt hx

/-- **The characters of a literal**, read from behind its opening quote to behind its closing
one. -/
def readText (c : Cursor) : Except Fault (List Char × Cursor) :=
  match _h : readUnit c with
  | .error f => .error f
  | .ok (none, c') => .ok ([], c')
  | .ok (some x, c') =>
      match readText c' with
      | .error f => .error f
      | .ok (xs, c'') => .ok (x :: xs, c'')
termination_by c.rest.length
decreasing_by exact readUnit_lt _h

/-- A literal is at least one character long. -/
theorem readText_lt {c c' : Cursor} {xs : List Char} (h : readText c = .ok (xs, c')) :
    c'.rest.length < c.rest.length := by
  fun_induction readText c generalizing xs c' with
  | case1 c f hu => simp at h
  | case2 c c₁ hu =>
      obtain ⟨-, rfl⟩ : _ ∧ c₁ = c' := by simpa using h
      exact readUnit_lt hu
  | case3 c x c₁ hu f hr ih => simp at h
  | case4 c x c₁ hu ys c₂ hr ih =>
      obtain ⟨-, rfl⟩ : _ ∧ c₂ = c' := by simpa using h
      exact Nat.lt_trans (ih hr) (readUnit_lt hu)

end BatchRunner.Json
