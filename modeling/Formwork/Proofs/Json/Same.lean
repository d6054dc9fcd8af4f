import Mathlib.Data.List.Basic
import Mathlib.Data.List.Perm.Subperm
import Formwork.Proofs.Json.Distinct

/-!
# Equality of JSON values is reflexive and symmetric

`Json.same` looks every field of the first object up in the second one. Where no object of the first
value names a field twice (`Json.Distinct`), a value is equal to itself (`same_self`), and equality is
symmetric: equally many distinct names, all of which the other object has, are all the names that it
has (`same_symm`).
-/

namespace Formwork

/-! ### Numbers -/

theorem compare_then_comm (e e' : Int) (m m' : Nat) :
    (compare e e').then (compare m m') = .eq ↔ (compare e' e).then (compare m' m) = .eq := by
  simp only [Ordering.then_eq_eq, Std.LawfulEqCmp.compare_eq_iff_eq]
  exact and_congr eq_comm eq_comm

open Float.Model in
theorem UnpackedFloat.beq_comm (a b : UnpackedFloat) : a.beq b = b.beq a := by
  rcases a with (_ | _) | _ | (_ | _) | ⟨_ | _, m, e, hm⟩ <;>
    rcases b with (_ | _) | _ | (_ | _) | ⟨_ | _, m', e', hm'⟩ <;> try rfl
  -- two finite floats of one sign
  · show (some ((compare e e').then (compare m m')).swap == some Ordering.eq) =
      (some ((compare e' e).then (compare m' m)).swap == some Ordering.eq)
    rw [Bool.eq_iff_iff, beq_iff_eq, beq_iff_eq, Option.some_inj, Option.some_inj,
      Ordering.swap_eq_eq, Ordering.swap_eq_eq]
    exact compare_then_comm e e' m m'
  · show (some ((compare e e').then (compare m m')) == some Ordering.eq) =
      (some ((compare e' e).then (compare m' m)) == some Ordering.eq)
    rw [Bool.eq_iff_iff, beq_iff_eq, beq_iff_eq, Option.some_inj, Option.some_inj]
    exact compare_then_comm e e' m m'

open Float.Model in
theorem UnpackedFloat.beq_self {a : UnpackedFloat} (h : a.isFinite = true) : a.beq a = true := by
  cases a with
  | notANumber => cases h
  | infinity sign => cases h
  | zero sign => cases sign <;> rfl
  | finite sign m e hm =>
    have hsame : (compare e e).then (compare m m) = .eq := by
      simp only [Ordering.then_eq_eq, Std.ReflCmp.compare_self, and_self]
    cases sign with
    | positive =>
      show (some ((compare e e).then (compare m m)) == some Ordering.eq) = true
      rw [hsame]; rfl
    | negative =>
      show (some ((compare e e).then (compare m m)).swap == some Ordering.eq) = true
      rw [hsame]; rfl

theorem Number.same_self (a : Number) : a.same a = true := by
  cases a with
  | int n => exact beq_self_eq_true n
  | float x hx => exact UnpackedFloat.beq_self hx

theorem Number.same_comm (a b : Number) : a.same b = b.same a := by
  cases a with
  | int m =>
    cases b with
    | int n => exact Bool.beq_comm
    | float => rfl
  | float x hx =>
    cases b with
    | int => rfl
    | float y hy => exact UnpackedFloat.beq_comm _ _

namespace Json

open Fields (mem_of_lookup lookup_of_mem mem_names_of_mem)

/-! ### Fields -/

variable {fields others : List (String × Json)} {name : String} {value : Json}

theorem sameFields_iff : sameFields fields others = true ↔
    ∀ name value, (name, value) ∈ fields →
      ∃ other, others.lookup name = some other ∧ same value other = true := by
  induction fields with
  | nil => simp [sameFields]
  | cons field rest ih =>
    obtain ⟨key, first⟩ := field
    rw [sameFields, Bool.and_eq_true, ih]
    constructor
    · rintro ⟨hfirst, hrest⟩ name value hmem
      rcases List.mem_cons.1 hmem with heq | hmem
      · cases heq
        cases hlookup : others.lookup key with
        | none => rw [hlookup] at hfirst; cases hfirst
        | some other => rw [hlookup] at hfirst; exact ⟨other, rfl, hfirst⟩
      · exact hrest name value hmem
    · intro h
      refine ⟨?_, fun name value hmem => h name value (List.mem_cons_of_mem _ hmem)⟩
      obtain ⟨other, hlookup, hsame⟩ := h key first List.mem_cons_self
      rw [hlookup]; exact hsame

/-- Equally many fields without repeated names that are all found in others: then the others are all
found among them. -/
theorem sameFields_symm (hnodup : (Fields.names fields).Nodup) (hlen : fields.length = others.length)
    (h : sameFields fields others = true)
    (hvalues : ∀ name value, (name, value) ∈ fields →
      ∀ other, same value other = true → same other value = true) :
    sameFields others fields = true := by
  rw [sameFields_iff] at h ⊢
  have hsub : Fields.names fields ⊆ Fields.names others := by
    intro name hname
    obtain ⟨⟨name, value⟩, hmem, rfl⟩ := List.mem_map.1 hname
    obtain ⟨other, hlookup, -⟩ := h name value hmem
    exact mem_names_of_mem (mem_of_lookup hlookup)
  have hperm : (Fields.names fields).Perm (Fields.names others) :=
    (hnodup.subperm hsub).perm_of_length_le (by simp [Fields.names, hlen])
  intro name other hother
  obtain ⟨⟨name, value⟩, hmem, rfl⟩ := List.mem_map.1 (hperm.mem_iff.2 (mem_names_of_mem hother))
  obtain ⟨found, hlookup, hsame⟩ := h name value hmem
  have hfound : found = other := Option.some.inj
    (hlookup.symm.trans (lookup_of_mem hother (hperm.nodup_iff.1 hnodup)))
  exact ⟨value, lookup_of_mem hmem hnodup, hvalues name value hmem other (hfound ▸ hsame)⟩

theorem length_eq_of_sameItems {items others : List Json} (h : sameItems items others = true) :
    items.length = others.length := by
  induction items generalizing others with
  | nil => cases others <;> first | rfl | cases h
  | cons item items ih =>
    cases others with
    | nil => cases h
    | cons other others =>
      rw [sameItems, Bool.and_eq_true] at h
      rw [List.length_cons, List.length_cons, ih h.2]

mutual

theorem same_symm {a b : Json} (hdistinct : a.Distinct) (h : same a b = true) : same b a = true := by
  cases a with
  | null => cases b <;> first | rfl | cases h
  | bool x =>
    cases b with
    | bool y => rw [same] at h ⊢; rwa [Bool.beq_comm]
    | _ => cases h
  | num x =>
    cases b with
    | num y => exact (Number.same_comm y x).trans h
    | _ => cases h
  | str x =>
    cases b with
    | str y => rw [same] at h ⊢; rwa [Bool.beq_comm]
    | _ => cases h
  | arr items =>
    cases b with
    | arr others => rw [same] at h ⊢; exact sameItems_symm hdistinct h
    | _ => cases h
  | obj fields =>
    cases b with
    | obj others =>
      rw [same, Bool.and_eq_true, beq_iff_eq] at h
      rw [same, Bool.and_eq_true, beq_iff_eq]
      exact ⟨h.1.symm, sameFields_symm hdistinct.1 h.1 h.2 (same_symm_of_mem hdistinct.2)⟩
    | _ => cases h

theorem sameItems_symm {items others : List Json} (hdistinct : DistinctItems items)
    (h : sameItems items others = true) : sameItems others items = true := by
  cases items with
  | nil => cases others <;> first | rfl | cases h
  | cons item items =>
    cases others with
    | nil => cases h
    | cons other others =>
      rw [sameItems, Bool.and_eq_true] at h ⊢
      exact ⟨same_symm hdistinct.1 h.1, sameItems_symm hdistinct.2 h.2⟩

theorem same_symm_of_mem {fields : List (String × Json)} (hdistinct : DistinctFields fields) :
    ∀ name value, (name, value) ∈ fields → ∀ other, same value other = true → same other value = true := by
  cases fields with
  | nil => simp
  | cons field rest =>
    obtain ⟨key, first⟩ := field
    intro name value hmem other h
    rcases List.mem_cons.1 hmem with heq | hmem
    · cases heq; exact same_symm hdistinct.1 h
    · exact same_symm_of_mem hdistinct.2 name value hmem other h

end

mutual

theorem same_self {a : Json} (hdistinct : a.Distinct) : same a a = true := by
  cases a with
  | null => rfl
  | bool x => exact beq_self_eq_true x
  | num x => exact Number.same_self x
  | str x => exact beq_self_eq_true x
  | arr items => exact sameItems_self hdistinct
  | obj fields =>
    rw [same, Bool.and_eq_true]
    refine ⟨beq_self_eq_true _, sameFields_iff.2 fun name value hmem => ?_⟩
    exact ⟨value, lookup_of_mem hmem hdistinct.1, same_self_of_mem hdistinct.2 name value hmem⟩

theorem sameItems_self {items : List Json} (hdistinct : DistinctItems items) :
    sameItems items items = true := by
  cases items with
  | nil => rfl
  | cons item items =>
    rw [sameItems, Bool.and_eq_true]
    exact ⟨same_self hdistinct.1, sameItems_self hdistinct.2⟩

theorem same_self_of_mem {fields : List (String × Json)} (hdistinct : DistinctFields fields) :
    ∀ name value, (name, value) ∈ fields → same value value = true := by
  cases fields with
  | nil => simp
  | cons field rest =>
    obtain ⟨key, first⟩ := field
    intro name value hmem
    rcases List.mem_cons.1 hmem with heq | hmem
    · cases heq; exact same_self hdistinct.1
    · exact same_self_of_mem hdistinct.2 name value hmem

end

end Json

end Formwork
