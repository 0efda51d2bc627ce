/-! # Separated fields

Every separator ends a field, so there is always one field more than there are separators.
-/

namespace TradeRegister.Text

def split (sep : Char) : List Char → List (List Char)
  | [] => [[]]
  | c :: cs =>
    if c = sep then [] :: split sep cs
    else
      match split sep cs with
      | [] => [[c]]
      | field :: fields => (c :: field) :: fields

def join (sep : Char) : List (List Char) → List Char
  | [] => []
  | [field] => field
  | field :: rest => field ++ sep :: join sep rest

theorem split_ne_nil (sep : Char) (cs : List Char) : split sep cs ≠ [] := by
  cases cs with
  | nil => simp [split]
  | cons c cs => rw [split]; split <;> (try split) <;> simp

theorem join_split (sep : Char) (cs : List Char) : join sep (split sep cs) = cs := by
  induction cs with
  | nil => rfl
  | cons c cs ih =>
    rw [split]
    split
    · next h =>
      subst h
      cases hs : split c cs with
      | nil => exact absurd hs (split_ne_nil c cs)
      | cons f fs => simpa [join, hs] using ih
    · cases hs : split sep cs with
      | nil => exact absurd hs (split_ne_nil sep cs)
      | cons f fs =>
        rw [hs] at ih
        cases fs with
        | nil => simpa [join] using ih
        | cons g gs => simpa [join] using ih

theorem split_eq_singleton {sep : Char} {cs : List Char} (h : sep ∉ cs) :
    split sep cs = [cs] := by
  induction cs with
  | nil => rfl
  | cons c cs ih =>
    simp only [List.mem_cons, not_or] at h
    rw [split, if_neg (Ne.symm h.1), ih h.2]

theorem split_append_cons {sep : Char} {a : List Char} (h : sep ∉ a) (b : List Char) :
    split sep (a ++ sep :: b) = a :: split sep b := by
  induction a with
  | nil => simp [split]
  | cons c cs ih =>
    simp only [List.mem_cons, not_or] at h
    rw [List.cons_append, split, if_neg (Ne.symm h.1), ih h.2]

theorem split_join {sep : Char} {fields : List (List Char)} (hne : fields ≠ [])
    (h : ∀ field ∈ fields, sep ∉ field) : split sep (join sep fields) = fields := by
  induction fields with
  | nil => exact absurd rfl hne
  | cons field rest ih =>
    obtain ⟨hfield, hrest⟩ := List.forall_mem_cons.1 h
    cases rest with
    | nil => exact split_eq_singleton hfield
    | cons next rest =>
      rw [join, split_append_cons hfield, ih (List.cons_ne_nil next rest) hrest]
      exact List.cons_ne_nil next rest

end TradeRegister.Text
