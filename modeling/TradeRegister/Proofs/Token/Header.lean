import TradeRegister.Proofs.Json.Record
import TradeRegister.Token.Authority

/-! # Algorithms of headers

The first reading finds the algorithm in the one member `alg` of an object, or alone in a list. The
second reading takes objects only, and finds the same algorithm in those it takes.
-/

namespace TradeRegister.Token

open Json

namespace Header

/-- A header that names this algorithm. -/
inductive Names (alg : String) : Json → Prop
  | member {v w : Json} (h : v.Holds "alg" w) (htext : asString? w = some alg) : Names alg v
  | alone {w : Json} (htext : asString? w = some alg) : Names alg (.array [w])

theorem exists_object_of_isSound {v : Json} (h : isSound v = true) :
    ∃ members, v = .object members := by
  cases v with
  | object members => exact ⟨members, rfl⟩
  | _ => simp [isSound] at h

theorem holds_of_algorithm? {members : List (Bytes × Json)} {alg : String}
    (h : algorithm? (.object members) = some alg) :
    ∃ w, (Json.object members).Holds "alg" w ∧ asString? w = some alg := by
  unfold algorithm? at h
  split at h
  · next hread =>
    obtain ⟨w, rfl, hw⟩ := required?_eq_some_iff.1 h
    exact ⟨w, holds_of_read? hread (i := 0) rfl rfl, hw⟩
  · cases h

theorem names_of_algorithm? {v : Json} {alg : String} (h : algorithm? v = some alg) :
    Names alg v := by
  cases v with
  | object members =>
    obtain ⟨w, hw, htext⟩ := holds_of_algorithm? h
    exact .member hw htext
  | array items =>
    cases items with
    | nil => cases h
    | cons w items =>
      cases items with
      | nil => exact .alone h
      | cons x items => simp [algorithm?, Layout.read?] at h
  | _ => cases h

/-- The first reading takes the headers that name an algorithm, and no others. -/
theorem algorithm?_eq_some_iff {v : Json} {alg : String} :
    algorithm? v = some alg ↔ Names alg v := by
  constructor
  · exact names_of_algorithm?
  · intro h
    cases h with
    | member hw htext =>
      rw [algorithm?, hw.read?]
      exact htext
    | alone htext => exact htext

theorem oneOf?_of_asString? {names : List String} {w : Json} {name : String}
    (h : asString? w = some name) (hname : name ∈ names) : oneOf? names w = some name := by
  cases w with
  | string literal =>
    have htext : text? literal = some name := h
    simp [oneOf?, htext, hname]
  | _ => cases h

/-- Where the first reading finds the one algorithm, the second finds no other. -/
theorem knownAlgorithm?_of_names {v : Json} (h : Names algorithm v) :
    knownAlgorithm? v = if isSound v then some algorithm else none := by
  cases h with
  | member hw htext =>
    obtain ⟨members, named, rfl, hnamed, hvalues⟩ := hw
    have halg := oneOf?_of_asString? htext (show algorithm ∈ algorithms by decide)
    simp only [knownAlgorithm?, hnamed, hvalues, halg]
  | alone => rfl

end Header

namespace Authority

theorem recheckHeader_of_names {v : Json} (h : Header.Names algorithm v) :
    recheckHeader v = if Header.isSound v then .ok () else .error (.malformed .json) := by
  rw [recheckHeader, Header.knownAlgorithm?_of_names h]
  cases Header.isSound v <;> rfl

end Authority
end TradeRegister.Token
