/-
**What a validated table lists.**

A table is validated entry by entry, and each entry program by program.  What has been accepted so
far lists exactly what the entries so far list, so an accepted document is asked as if its entries
were searched.

Main definitions:

* `Exclusion.RawTable.Lists` — an entry of a variant has a program on its list;
* `Exclusion.Document.ofMode` — the entries for a context mode.

Main results:

* `Exclusion.Table.lists_addAll` — **what adding entries adds**;
* `Exclusion.Tables.lists_iff` — **an accepted document predicts what it lists for the mode**.
-/
import BatchRunner.Exclusion.Table
import BatchRunner.Proofs.Result

set_option autoImplicit false

namespace BatchRunner.Exclusion

variable {v : Variant} {p : Program} {raw : RawTable} {t t' : Table} {d : Document}
  {tables : Tables} {mode : Mode} {text : String}

/-- Whether an entry of a variant has a program on its list. -/
def RawTable.Lists (raw : RawTable) (v : Variant) (p : Program) : Prop :=
  ∃ ps, (v, ps) ∈ raw ∧ p ∈ ps

instance (raw : RawTable) (v : Variant) (p : Program) : Decidable (raw.Lists v p) :=
  decidable_of_iff (∃ e ∈ raw, e.1 = v ∧ p ∈ e.2)
    ⟨fun ⟨_, he, hv, hp⟩ => ⟨_, hv ▸ he, hp⟩, fun ⟨_, he, hp⟩ => ⟨_, he, rfl, hp⟩⟩

def Document.ofMode (d : Document) : Mode → RawTable
  | .default => d.default
  | .empty => d.empty

theorem RawTable.lists_cons (w : Variant) (ps : List Program) :
    RawTable.Lists ((w, ps) :: raw) v p ↔ (v = w ∧ p ∈ ps) ∨ raw.Lists v p := by
  constructor
  · rintro ⟨qs, hmem, hp⟩
    rcases List.mem_cons.1 hmem with heq | hmem
    · obtain ⟨rfl, rfl⟩ := Prod.mk.inj heq
      exact .inl ⟨rfl, hp⟩
    · exact .inr ⟨qs, hmem, hp⟩
  · rintro (⟨rfl, hp⟩ | ⟨qs, hmem, hp⟩)
    · exact ⟨ps, List.mem_cons_self, hp⟩
    · exact ⟨qs, List.mem_cons_of_mem _ hmem, hp⟩

namespace Table

/-- An entry that is accepted lists what was listed before it and the programs that it names. -/
theorem listed_collect {seen listed : Listed} {ps : List Program}
    (h : collect seen ps = .ok listed) : listed p = true ↔ seen p = true ∨ p ∈ ps := by
  induction ps generalizing seen with
  | nil =>
      obtain rfl : seen = listed := by simpa [collect] using h
      simp
  | cons q ps ih =>
      rw [collect] at h
      split at h
      · exact absurd h (by simp)
      · rw [ih h]
        simp only [Bool.or_eq_true, decide_eq_true_eq, List.mem_cons]
        exact or_assoc.trans or_left_comm

theorem lists_insert_self (t : Table) (w : Variant) (ps : Listed) :
    (t.insert w ps).lists w p = ps p := by
  simp [lists]

theorem lists_insert_of_ne {w : Variant} {ps : Listed} (h : v ≠ w) :
    (t.insert w ps).lists v p = t.lists v p := by
  simp [lists, row?_insert_of_ne h]

/-- **Entries that are accepted add what they list**, and nothing else. -/
theorem lists_addAll (h : addAll t raw = .ok t') :
    t'.lists v p = true ↔ t.lists v p = true ∨ raw.Lists v p := by
  induction raw generalizing t with
  | nil =>
      obtain rfl : t = t' := by simpa [addAll] using h
      simp [RawTable.Lists]
  | cons e raw ih =>
      obtain ⟨w, ps⟩ := e
      rw [addAll] at h
      split at h
      · exact absurd h (by simp)
      · next hnew =>
          cases hc : collect (fun _ => false) ps with
          | error q => simp [hc] at h
          | ok listed =>
              simp only [hc] at h
              rw [ih h, RawTable.lists_cons]
              by_cases hv : v = w
              · subst hv
                have hbefore : t.lists v p = false := by
                  have hrow : t.row? v = none := by simpa using hnew
                  simp [lists, hrow]
                have hlisted : listed p = true ↔ p ∈ ps := by
                  rw [listed_collect hc]
                  simp
                rw [lists_insert_self, hlisted]
                simp [hbefore]
              · rw [lists_insert_of_ne hv]
                simp [hv]

theorem lists_ofRaw (h : ofRaw raw = .ok t) : t.lists v p = true ↔ raw.Lists v p := by
  rw [lists_addAll h]
  simp [lists]

end Table

namespace Tables

/-- Both tables of an accepted document have been validated. -/
theorem ofRaw_of_ofDocument (h : ofDocument d = .ok tables) (mode : Mode) :
    Table.ofRaw (d.ofMode mode) = .ok (tables.ofMode mode) := by
  have hvalid : ∀ {m raw t}, validate m raw = .ok t → Table.ofRaw raw = .ok t := by
    intro m raw t hv
    cases hr : Table.ofRaw raw with
    | error e => simp [validate, hr] at hv
    | ok t₀ => simpa [validate, hr] using hv
  unfold ofDocument at h
  cases hd : validate .default d.default with
  | error e => simp [hd, bind, Except.bind] at h
  | ok default =>
      cases he : validate .empty d.empty with
      | error e => simp [hd, he, bind, Except.bind] at h
      | ok empty =>
          obtain rfl : Tables.mk default empty = tables := by
            simpa [hd, he, bind, Except.bind, pure, Except.pure] using h
          cases mode with
          | default => exact hvalid hd
          | empty => exact hvalid he

/-- A text is accepted if it can be read as a document and that is accepted. -/
theorem ofDocument_of_parse (hread : Document.parse text = .ok d)
    (h : Tables.parse text = .ok tables) : ofDocument d = .ok tables := by
  simpa [parse, hread, bind, Except.bind] using h

/-- **An accepted document predicts exactly what it lists for the mode.** -/
theorem lists_iff (hread : Document.parse text = .ok d) (h : Tables.parse text = .ok tables) :
    (tables.ofMode mode).lists v p = true ↔ (d.ofMode mode).Lists v p :=
  Table.lists_ofRaw (ofRaw_of_ofDocument (ofDocument_of_parse hread h) mode)

end Tables

end BatchRunner.Exclusion
