import TraceBackedMemory.Gate.SessionRuns
import TraceBackedMemory.Outbox.Steps

namespace TraceBackedMemory

open Text Raising

variable {a b c d : Str} {i j : Int}

section Canonical

-- the instants of the years 1 through 9999 in UTC
def Representable (i : Int) : Prop := 0 ≤ i ∧ i ≤ maxInstant

instance : DecidablePred Representable := fun _ => inferInstanceAs (Decidable (_ ∧ _))

theorem utcText_eq_iff : utcText? i = some c ↔ Representable i ∧ c = isoformat i.toNat := by
  unfold utcText? Representable
  split
  · rename_i hrange
    rw [Option.some.injEq, eq_comm]
    exact (and_iff_right hrange).symm
  · rename_i hrange
    exact iff_of_false (Option.some_ne_none c).symm (fun h => hrange h.1)

theorem canonicalRfc3339_eq_ok (h : GateSession.instant a = .ok i) :
    canonicalRfc3339 a = .ok c ↔ Representable i ∧ c = isoformat i.toNat := by
  rw [canonicalRfc3339, h, ← utcText_eq_iff]
  exact demand_eq_ok

theorem instant_of_canonical (h : GateSession.instant a = .ok i) (hc : canonicalRfc3339 a = .ok c) :
    GateSession.instant c = .ok i := by
  obtain ⟨hi, rfl⟩ := (canonicalRfc3339_eq_ok h).mp hc
  have hbound : i.toNat ≤ maxInstant := by
    have hle := hi.2
    omega
  rw [GateSession.instant_eq_ok, instant_isoformat hbound, Int.toNat_of_nonneg hi.1]

theorem canonical_again (h : GateSession.instant a = .ok i) (hc : canonicalRfc3339 a = .ok c) :
    canonicalRfc3339 c = .ok c :=
  (canonicalRfc3339_eq_ok (instant_of_canonical h hc)).mpr ((canonicalRfc3339_eq_ok h).mp hc)

theorem canonical_eq_iff (ha : GateSession.instant a = .ok i) (hb : GateSession.instant b = .ok j)
    (hc : canonicalRfc3339 a = .ok c) (hd : canonicalRfc3339 b = .ok d) : c = d ↔ i = j := by
  constructor
  · rintro rfl
    have hsame := (instant_of_canonical ha hc).symm.trans (instant_of_canonical hb hd)
    exact Except.ok.inj hsame
  · rintro rfl
    rw [((canonicalRfc3339_eq_ok ha).mp hc).2, ((canonicalRfc3339_eq_ok hb).mp hd).2]

end Canonical

section Claim

-- both texts have a canonical form that denotes their instant and is its own canonical form, and
-- the two forms are equal exactly when the instants are
def CanonicalisedTogether (a b : Str) (i j : Int) : Prop :=
  ∃ c d, canonicalRfc3339 a = .ok c ∧ canonicalRfc3339 b = .ok d ∧
    GateSession.instant c = .ok i ∧ GateSession.instant d = .ok j ∧
    canonicalRfc3339 c = .ok c ∧ canonicalRfc3339 d = .ok d ∧ (c = d ↔ i = j)

theorem canonicalised_iff_representable (a b : Str) (i j : Int)
    (ha : GateSession.instant a = .ok i) (hb : GateSession.instant b = .ok j) :
    CanonicalisedTogether a b i j ↔ Representable i ∧ Representable j := by
  constructor
  · rintro ⟨c, d, hc, hd, _⟩
    exact ⟨((canonicalRfc3339_eq_ok ha).mp hc).1, ((canonicalRfc3339_eq_ok hb).mp hd).1⟩
  · rintro ⟨hi, hj⟩
    have hc := (canonicalRfc3339_eq_ok ha).mpr ⟨hi, rfl⟩
    have hd := (canonicalRfc3339_eq_ok hb).mpr ⟨hj, rfl⟩
    exact ⟨_, _, hc, hd, instant_of_canonical ha hc, instant_of_canonical hb hd, canonical_again ha hc,
      canonical_again hb hd, canonical_eq_iff ha hb hc hd⟩

theorem canonicalised_across_offsets :
    CanonicalisedTogether (lit "2026-01-01T01:00:00.5+01:00") (lit "2026-01-01T00:00:00.500000Z")
      63902822400500000 63902822400500000 :=
  (canonicalised_iff_representable _ _ _ _ (by decide) (by decide)).mpr ⟨by decide, by decide⟩

theorem canonical_form_missing :
    GateSession.instant (lit "0001-01-01T00:00:00+01:00") = .ok (-3600000000) ∧
      canonicalRfc3339 (lit "0001-01-01T00:00:00+01:00") = .error dateOutOfRange ∧
      (GateSession.instant (lit "9999-12-31T23:59:59-01:00")).toBool = true ∧
      canonicalRfc3339 (lit "9999-12-31T23:59:59-01:00") = .error dateOutOfRange := by
  decide

end Claim

end TraceBackedMemory
