import Mathlib.Data.Nat.Digits.Defs
import TradeRegister.Password
import TradeRegister.Proofs.Base64
import TradeRegister.Proofs.Json.Numeral

/-! # What verification reads from a stored password

Verification knows nothing but the stored text. It takes from it the recipe of a digest, which is
everything that the digest depends on but the password, and the digest to expect. Recipe and digest
are read back from the text they were written to, for every variant, version, cost, salt and digest
that a text can hold; what the digest computes does not matter.
-/

namespace TradeRegister

theorem Decimal.notMem_write {c : Char} (h : c.isDigit = false) (n : Nat) : c ∉ write n := by
  intro hc
  rw [isDigit_of_mem_write hc] at h
  cases h

theorem Decimal.length_write_le {n : Nat} (h : n < 2 ^ 32) : (write n).length ≤ 10 :=
  Nat.toDigits_length 10 n 10 (by decide) (h.trans (by decide))

namespace Password

open Argon2 (Variant Version Cost Job)

/-- Everything that the digest of a password depends on, except the password. -/
structure Recipe where
  variant : Variant
  version : Version
  cost : Cost
  size : Nat
  salt : Bytes
  data : Bytes
deriving DecidableEq

namespace Recipe

def digest (r : Recipe) (password : Bytes) : Bytes :=
  Job.run ⟨r.variant, r.version, r.cost, r.size⟩ password r.salt r.data

def stored (r : Recipe) (output : Bytes) : Stored where
  algorithm := r.variant.name.toList
  version := some r.version.number
  parameters := costParameters r.cost
  salt := some (Base64.encode .standard r.salt)
  output := some output

/-- A stored text can hold the recipe and the digest. -/
structure Fits (r : Recipe) (output : Bytes) : Prop where
  cost : r.cost.isValid = true
  memory : r.cost.memory < 2 ^ 32
  passes : r.cost.passes < 2 ^ 32
  size : r.size = output.length
  octets : 10 ≤ output.length ∧ output.length ≤ 64
  salt : 8 ≤ r.salt.length ∧ r.salt.length ≤ 48
  data : r.data = []

end Recipe

/-- The recipe that the fields of a stored password give. -/
def Stored.recipe? (s : Stored) : Option Recipe := do
  let salt ← s.salt
  let output ← s.output
  let setup ← s.parameters.foldlM Setup.apply? ⟨usualCost, []⟩
  guard setup.cost.isValid
  let variant ← Variant.ofName? (String.ofList s.algorithm)
  let version ←
    match s.version with
    | none => some .v19
    | some n => Version.ofNumber? n
  let saltOctets ← Base64.decode? .standard salt
  guard (8 ≤ saltOctets.length)
  some ⟨variant, version, setup.cost, output.length, saltOctets, setup.data⟩

/-- The recipe and the digest that a stored text gives. -/
def reading? (text : String) : Option (Recipe × Bytes) := do
  let s ← Stored.parse? text
  let recipe ← s.recipe?
  let output ← s.output
  some (recipe, output)

/-! ## Verification goes by the reading -/

theorem Stored.recompute?_eq (s : Stored) (octets : Bytes) :
    s.recompute? octets = (do
      let recipe ← s.recipe?
      guard (octets.length ≤ maxLength)
      some (recipe.digest octets)) := by
  have hguard (n : Nat) : guard (decide (8 ≤ n) && decide (octets.length ≤ maxLength)) =
      Option.bind (guard (8 ≤ n)) fun _ => guard (octets.length ≤ maxLength) := by
    by_cases hlong : 8 ≤ n <;> simp [guard, hlong]
  cases hversion : s.version with
  | none =>
    simp only [recompute?, recipe?, hversion, bind, Option.bind_assoc, hguard]
    rfl
  | some number =>
    simp only [recompute?, recipe?, hversion, bind, Option.bind_assoc, hguard]
    rfl

/-- A password is right exactly if its digest by the recipe that was read is the one that was
read. -/
theorem verify_iff {password text : String} :
    verify password text = true ↔ ∃ recipe output, reading? text = some (recipe, output) ∧
      (Bytes.ofString password).length ≤ maxLength ∧
      recipe.digest (Bytes.ofString password) = output := by
  cases hparse : Stored.parse? text with
  | none => simp [verify, reading?, hparse]
  | some s =>
    cases houtput : s.output with
    | none => simp [verify, reading?, hparse, houtput]
    | some output =>
      cases hrecipe : s.recipe? with
      | none => simp [verify, reading?, hparse, houtput, hrecipe, Stored.recompute?_eq]
      | some recipe =>
        by_cases hshort : (Bytes.ofString password).length ≤ maxLength
        · simp [verify, reading?, hparse, houtput, hrecipe, Stored.recompute?_eq, hshort]
        · simp [verify, reading?, hparse, houtput, hrecipe, Stored.recompute?_eq, hshort]

/-! ## Numerals and names -/

theorem isValueChar_of_isDigit {c : Char} (h : c.isDigit = true) : isValueChar c = true := by
  simp [isValueChar, Char.isAlphanum, h]

variable {n : Nat}

theorem isValue_write (h : n < 2 ^ 32) : isValue (Decimal.write n) = true := by
  have hlength := Decimal.length_write_le h
  have hchars : (Decimal.write n).all isValueChar = true := by
    apply List.all_eq_true.2
    intro c hc
    exact isValueChar_of_isDigit (Decimal.isDigit_of_mem_write hc)
  have hshort : (Decimal.write n).length ≤ 64 := by omega
  simp [isValue, hchars, hshort]

theorem decimal?_write (h : n < 2 ^ 32) : decimal? (Decimal.write n) = some n := by
  have hfits : ¬ 0x100000000 ≤ n := by omega
  by_cases hn : n = 0
  · subst hn
    rfl
  · simp [decimal?, Decimal.read?_write, Decimal.head?_write_ne_zero hn, hfits]

theorem parameter?_write (name : Char) (hname : isNameChar name = true) (h : n < 2 ^ 32) :
    parameter? ([name] ++ '=' :: Decimal.write n) = some ([name], Decimal.write n) := by
  have hequals : '=' ∉ [name] := by
    intro hmem
    obtain rfl := List.mem_singleton.1 hmem
    cases hname
  have hsplit : Text.split '=' ([name] ++ '=' :: Decimal.write n) = [[name], Decimal.write n] := by
    rw [Text.split_append_cons hequals, Text.split_eq_singleton]
    exact Decimal.notMem_write (by decide) n
  rw [parameter?, hsplit]
  simp [isName, hname, isValue_write h]

/-! ## The text -/

section Written

variable {cost : Cost} {recipe : Recipe} {output : Bytes}

def parameterFields (c : Cost) : List (List Char) :=
  (costParameters c).map fun p => p.1 ++ '=' :: p.2

theorem notMem_parameterFields {c : Char} (hdigit : c.isDigit = false)
    (hname : c ∉ ['m', 't', 'p', '=']) :
    ∀ field ∈ parameterFields cost, c ∉ field := by
  simp only [List.mem_cons, List.not_mem_nil, or_false, not_or] at hname
  simp [parameterFields, costParameters, hname, Decimal.notMem_write hdigit]

theorem parameters?_join (hmemory : cost.memory < 2 ^ 32) (hpasses : cost.passes < 2 ^ 32)
    (hlanes : cost.lanes < 2 ^ 32) :
    parameters? (Text.join ',' (parameterFields cost)) = some (costParameters cost) := by
  have hsplit : Text.split ',' (Text.join ',' (parameterFields cost)) = parameterFields cost :=
    Text.split_join (List.cons_ne_nil _ _) (notMem_parameterFields (by decide) (by decide))
  have hlength : (Text.join ',' (parameterFields cost)).length ≤ 127 := by
    have hm := Decimal.length_write_le hmemory
    have ht := Decimal.length_write_le hpasses
    have hp := Decimal.length_write_le hlanes
    simp [parameterFields, costParameters, Text.join]
    omega
  rw [parameters?, if_neg (Nat.not_lt.2 hlength), hsplit, parameterFields, costParameters]
  have hm := parameter?_write 'm' (by decide) hmemory
  have ht := parameter?_write 't' (by decide) hpasses
  have hp := parameter?_write 'p' (by decide) hlanes
  simp only [List.map_cons, List.map_nil, List.mapM_cons, List.mapM_nil, hm, ht, hp]
  rfl

theorem foldlM_costParameters (hmemory : cost.memory < 2 ^ 32) (hpasses : cost.passes < 2 ^ 32)
    (hlanes : cost.lanes < 2 ^ 32) (setup : Setup) :
    (costParameters cost).foldlM Setup.apply? setup = some { setup with cost } := by
  simp [costParameters, Setup.apply?, decimal?_write hmemory, decimal?_write hpasses,
    decimal?_write hlanes]

variable (recipe output) in
def textFields : List (List Char) :=
  [[], recipe.variant.name.toList, 'v' :: '=' :: Decimal.write recipe.version.number,
    Text.join ',' (parameterFields recipe.cost), Base64.encode .standard recipe.salt,
    Base64.encode .standard output]

theorem chars_stored : (recipe.stored output).chars = Text.join '$' (textFields recipe output) := by
  simp [Stored.chars, Recipe.stored, textFields, costParameters, parameterFields, Text.join]

theorem dollar_notMem_encode (b : Bytes) : '$' ∉ Base64.encode .standard b :=
  fun hdollar => Base64.forall_mem_encode (P := (· ≠ '$')) (by decide) b '$' hdollar rfl

theorem dollar_notMem_textFields : ∀ field ∈ textFields recipe output, '$' ∉ field := by
  have hvariant : '$' ∉ recipe.variant.name.toList := by
    cases recipe.variant <;> decide
  have hnumeral (n : Nat) : '$' ∉ Decimal.write n := Decimal.notMem_write (by decide) n
  have hparameters : '$' ∉ Text.join ',' (parameterFields recipe.cost) := by
    simp [parameterFields, costParameters, Text.join, hnumeral]
  simp [textFields, hvariant, hnumeral, hparameters, dollar_notMem_encode]

theorem split_chars_stored :
    Text.split '$' (recipe.stored output).chars = textFields recipe output := by
  rw [chars_stored]
  exact Text.split_join (List.cons_ne_nil _ _) dollar_notMem_textFields

/-! ## Reading it -/

theorem salt?_encode {salt : Bytes} (h : 8 ≤ salt.length ∧ salt.length ≤ 48) :
    salt? (Base64.encode .standard salt) = some (Base64.encode .standard salt) := by
  have hchars : (Base64.encode .standard salt).all isValueChar = true :=
    List.all_eq_true.2 (Base64.forall_mem_encode (P := (isValueChar · = true)) (by decide) salt)
  have hlength := Base64.length_encode .standard salt
  have hfour : 4 ≤ (Base64.encode .standard salt).length := by omega
  have hsixtyFour : (Base64.encode .standard salt).length ≤ 64 := by omega
  simp [salt?, isValue, hchars, hfour, hsixtyFour]

theorem output?_encode (h : 10 ≤ output.length ∧ output.length ≤ 64) :
    output? (Base64.encode .standard output) = some output := by
  simp [output?, Base64.decode?_encode Base64.Alphabet.standard_isFaithful, h.1, h.2]

theorem versionField?_write (version : Version) (rest : List (List Char)) :
    Stored.versionField? (('v' :: '=' :: Decimal.write version.number) :: rest) =
      some (some version.number, rest) := by
  cases version <;> rfl

theorem parametersField?_join (hmemory : cost.memory < 2 ^ 32) (hpasses : cost.passes < 2 ^ 32)
    (hlanes : cost.lanes < 2 ^ 32) (rest : List (List Char)) :
    Stored.parametersField? (Text.join ',' (parameterFields cost) :: rest) =
      some (costParameters cost, rest) := by
  have hequals : (Text.join ',' (parameterFields cost)).contains '=' = true := by
    simp [parameterFields, costParameters, Text.join]
  rw [Stored.parametersField?, if_pos hequals, parameters?_join hmemory hpasses hlanes]
  rfl

namespace Recipe.Fits

theorem lanes (h : recipe.Fits output) : recipe.cost.lanes < 2 ^ 32 := by
  have hcost := h.cost
  simp only [Cost.isValid, Bool.and_eq_true, decide_eq_true_eq] at hcost
  omega

/-- Every field is read back as it was written. -/
theorem parse?_text (h : recipe.Fits output) :
    Stored.parse? (recipe.stored output).text = some (recipe.stored output) := by
  have hname : guard (isName recipe.variant.name.toList) = some () := by
    cases recipe.variant <;> exact if_pos (by decide)
  rw [Stored.parse?, Stored.text, String.toList_ofList, split_chars_stored, textFields]
  refine Option.bind_eq_some_iff.2 ⟨_, hname, ?_⟩
  refine Option.bind_eq_some_iff.2 ⟨_, versionField?_write recipe.version _, ?_⟩
  refine Option.bind_eq_some_iff.2
    ⟨_, parametersField?_join h.memory h.passes h.lanes _, ?_⟩
  refine Option.bind_eq_some_iff.2 ⟨_, salt?_encode h.salt, ?_⟩
  exact Option.bind_eq_some_iff.2 ⟨_, output?_encode h.octets, rfl⟩

theorem recipe?_stored (h : recipe.Fits output) :
    (recipe.stored output).recipe? = some recipe := by
  have hvariant :
      Variant.ofName? (String.ofList recipe.variant.name.toList) = some recipe.variant := by
    cases recipe.variant <;> decide
  have hversion : Version.ofNumber? recipe.version.number = some recipe.version := by
    cases recipe.version <;> rfl
  have hrecipe : recipe =
      ⟨recipe.variant, recipe.version, recipe.cost, output.length, recipe.salt, []⟩ := by
    rw [← h.size, ← h.data]
  rw [Stored.recipe?]
  refine Option.bind_eq_some_iff.2 ⟨_, rfl, ?_⟩
  refine Option.bind_eq_some_iff.2 ⟨_, rfl, ?_⟩
  refine Option.bind_eq_some_iff.2
    ⟨_, foldlM_costParameters h.memory h.passes h.lanes ⟨usualCost, []⟩, ?_⟩
  refine Option.bind_eq_some_iff.2 ⟨_, if_pos h.cost, ?_⟩
  refine Option.bind_eq_some_iff.2 ⟨_, hvariant, ?_⟩
  refine Option.bind_eq_some_iff.2 ⟨_, hversion, ?_⟩
  refine Option.bind_eq_some_iff.2
    ⟨_, Base64.decode?_encode Base64.Alphabet.standard_isFaithful recipe.salt, ?_⟩
  refine Option.bind_eq_some_iff.2 ⟨_, if_pos h.salt.1, ?_⟩
  exact congrArg some hrecipe.symm

/-- What was written is what verification reads. -/
theorem reading?_text (h : recipe.Fits output) :
    reading? (recipe.stored output).text = some (recipe, output) := by
  rw [reading?, h.parse?_text]
  refine Option.bind_eq_some_iff.2 ⟨_, rfl, ?_⟩
  refine Option.bind_eq_some_iff.2 ⟨_, h.recipe?_stored, ?_⟩
  rfl

/-- Exactly the passwords of the same digest are right. -/
theorem verify_text_iff (h : recipe.Fits output) {password : String} :
    verify password (recipe.stored output).text = true ↔
      (Bytes.ofString password).length ≤ maxLength ∧
        recipe.digest (Bytes.ofString password) = output := by
  rw [verify_iff, h.reading?_text]
  constructor
  · rintro ⟨_, _, hreading, hpassword⟩
    obtain ⟨rfl, rfl⟩ := Prod.mk.inj (Option.some.inj hreading)
    exact hpassword
  · intro hpassword
    exact ⟨recipe, output, rfl, hpassword⟩

end Recipe.Fits
end Written

end Password
end TradeRegister
