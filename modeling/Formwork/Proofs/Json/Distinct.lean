import Formwork.Proofs.Names

/-!
# Values without repeated names

In a value that has been read no object names a field twice (`Json.Distinct`). To give a name a value
keeps it so (`Json.distinct_set`).
-/

namespace Formwork.Json

mutual

/-- No object of a value names a field twice. -/
def Distinct : Json → Prop
  | .arr items => DistinctItems items
  | .obj fields => (Fields.names fields).Nodup ∧ DistinctFields fields
  | _ => True

def DistinctItems : List Json → Prop
  | [] => True
  | item :: rest => Distinct item ∧ DistinctItems rest

def DistinctFields : List (String × Json) → Prop
  | [] => True
  | (_, value) :: rest => Distinct value ∧ DistinctFields rest

end

variable {items : List Json} {fields : List (String × Json)} {name key : String} {value old : Json}

theorem distinctItems_iff : DistinctItems items ↔ ∀ item ∈ items, item.Distinct := by
  induction items with
  | nil => simp [DistinctItems]
  | cons item items ih => rw [DistinctItems, ih, List.forall_mem_cons]

theorem distinctFields_iff : DistinctFields fields ↔ ∀ name value, (name, value) ∈ fields → value.Distinct := by
  induction fields with
  | nil => simp [DistinctFields]
  | cons field fields ih =>
    obtain ⟨key, first⟩ := field
    rw [DistinctFields, ih]
    constructor
    · rintro ⟨hfirst, hrest⟩ name value hmem
      rcases List.mem_cons.1 hmem with heq | hmem
      · cases heq; exact hfirst
      · exact hrest name value hmem
    · exact fun h => ⟨h key first List.mem_cons_self,
        fun name value hmem => h name value (List.mem_cons_of_mem _ hmem)⟩

theorem distinct_of_get? (h : DistinctFields fields) (hget : Fields.get? fields name = some value) :
    value.Distinct :=
  distinctFields_iff.1 h name value (Fields.mem_of_lookup hget)

theorem mem_set (h : (name, value) ∈ Fields.set fields key old) : (name, value) ∈ fields ∨ value = old := by
  induction fields with
  | nil =>
    rw [Fields.set, List.mem_singleton] at h
    exact .inr (Prod.ext_iff.1 h).2
  | cons field rest ih =>
    obtain ⟨first, kept⟩ := field
    rw [Fields.set] at h
    split at h
    · rcases List.mem_cons.1 h with h | h
      · exact .inr (Prod.ext_iff.1 h).2
      · exact .inl (List.mem_cons_of_mem _ h)
    · rcases List.mem_cons.1 h with h | h
      · exact .inl (h ▸ List.mem_cons_self)
      · exact (ih h).imp_left (List.mem_cons_of_mem _)

theorem distinct_set (h : (obj fields).Distinct) (hvalue : value.Distinct) :
    (obj (Fields.set fields name value)).Distinct := by
  refine ⟨Fields.nodup_names_set h.1, distinctFields_iff.2 fun other found hmem => ?_⟩
  rcases mem_set hmem with hmem | rfl
  · exact distinctFields_iff.1 h.2 other found hmem
  · exact hvalue

theorem distinct_setAll_of {more : Fields Json} (hfields : (obj fields).Distinct)
    (h : ∀ field ∈ more, field.2.Distinct) : (obj (Fields.setAll fields more)).Distinct :=
  List.foldlRecOn (motive := fun fields : Fields Json => (obj fields).Distinct) more _
    hfields fun _ hfields field hfield => distinct_set hfields (h field hfield)

theorem distinct_setAll {more : Fields Json} (h : ∀ field ∈ more, field.2.Distinct) :
    (obj (Fields.setAll [] more)).Distinct :=
  distinct_setAll_of ⟨List.nodup_nil, trivial⟩ h

end Formwork.Json
