import Mathlib.Data.List.Induction
import Mathlib.Data.List.Sort
import Formwork.Json.Basic
import Formwork.NameMap

/-!
# Looking names up

What the operations on `Fields`, `NameMap` and `NameSet` do to the look-up of names. The entries of
a `NameMap` are in ascending order, so a map is known by its look-ups (`NameMap.ext`).
-/

namespace Formwork

theorem lookup_cons {α : Type} (key : String) (value : α) (rest : List (String × α)) (name : String) :
    ((key, value) :: rest).lookup name = if name = key then some value else rest.lookup name := by
  rw [List.lookup_cons]
  by_cases h : name = key
  · subst h; simp
  · simp [h, beq_false_of_ne h]

namespace Fields
variable {α : Type} {fields : Fields α} {name : String} {value : α}

theorem mem_names_of_mem (h : (name, value) ∈ fields) : name ∈ names fields :=
  List.mem_map.2 ⟨_, h, rfl⟩

theorem mem_of_lookup (h : fields.lookup name = some value) : (name, value) ∈ fields := by
  induction fields with
  | nil => cases h
  | cons field rest ih =>
    obtain ⟨key, old⟩ := field
    rw [lookup_cons] at h
    split at h
    · rename_i heq; cases h; rw [heq]; exact List.mem_cons_self
    · exact List.mem_cons_of_mem _ (ih h)

theorem lookup_of_mem (h : (name, value) ∈ fields) (hnodup : (names fields).Nodup) :
    fields.lookup name = some value := by
  induction fields with
  | nil => cases h
  | cons field rest ih =>
    obtain ⟨key, old⟩ := field
    obtain ⟨hkey, hrest⟩ := List.nodup_cons.1 hnodup
    rw [lookup_cons]
    rcases List.mem_cons.1 h with heq | h
    · cases heq; rw [if_pos rfl]
    · have hne : name ≠ key := fun heq => hkey (heq ▸ mem_names_of_mem h)
      rw [if_neg hne, ih h hrest]

@[simp] theorem get?_set (fields : Fields α) (name : String) (value : α) (other : String) :
    get? (set fields name value) other = if other = name then some value else get? fields other := by
  unfold get?
  induction fields with
  | nil => rw [set, lookup_cons]
  | cons field rest ih =>
    obtain ⟨key, old⟩ := field
    rw [set]
    split_ifs with hkey hname hname
    · rw [lookup_cons, if_pos (hname.trans hkey.symm)]
    · subst hkey; rw [lookup_cons, lookup_cons, if_neg hname, if_neg hname]
    · rw [lookup_cons, ih, if_pos hname, if_neg fun h => hkey (h.symm.trans hname)]
    · rw [lookup_cons, lookup_cons, ih, if_neg hname]

/-- To give a name the value that it has changes nothing. -/
theorem set_of_get? (h : get? fields name = some value) : set fields name value = fields := by
  unfold get? at h
  induction fields with
  | nil => cases h
  | cons field rest ih =>
    obtain ⟨key, old⟩ := field
    rw [lookup_cons] at h
    rw [set]
    by_cases hkey : key = name
    · rw [if_pos hkey.symm] at h
      cases h
      rw [if_pos hkey]
    · rw [if_neg fun heq => hkey heq.symm] at h
      rw [if_neg hkey, ih h]

theorem names_set (fields : Fields α) (name : String) (value : α) :
    names (set fields name value) = if name ∈ names fields then names fields else names fields ++ [name] := by
  induction fields with
  | nil => rfl
  | cons field rest ih =>
    obtain ⟨key, old⟩ := field
    rw [set]
    by_cases hkey : key = name
    · subst hkey
      rw [if_pos rfl, if_pos (by simp [names])]; rfl
    · have hmem : name ∈ names ((key, old) :: rest) ↔ name ∈ names rest := by
        simp [names, Ne.symm hkey]
      rw [if_neg hkey]
      show key :: names (set rest name value) = _
      rw [ih, if_congr hmem rfl rfl]
      split <;> rfl

theorem nodup_names_set (h : (names fields).Nodup) : (names (set fields name value)).Nodup := by
  rw [names_set]
  split
  · exact h
  · rename_i hname
    exact List.Nodup.append h (List.nodup_singleton name) (by simpa using hname)

/-- Names that are not among those given values keep what they have. -/
theorem get?_setAll_of_notMem {fields more : Fields α} {name : String} (h : name ∉ names more) :
    get? (setAll fields more) name = get? fields name := by
  induction more generalizing fields with
  | nil => rfl
  | cons field more ih =>
    obtain ⟨key, value⟩ := field
    simp only [names, List.map_cons, List.mem_cons, not_or] at h
    show get? (setAll (set fields key value) more) name = _
    rw [ih h.2, get?_set, if_neg h.1]

/-- Where names are given one value each, these count, before the values that were there. -/
theorem get?_setAll {fields more : Fields α} {name : String} (hnodup : (names more).Nodup) :
    get? (setAll fields more) name = (get? more name).or (get? fields name) := by
  induction more generalizing fields with
  | nil => rfl
  | cons field more ih =>
    obtain ⟨key, value⟩ := field
    obtain ⟨hkey, hmore⟩ := List.nodup_cons.1 hnodup
    have hcons : get? ((key, value) :: more) name = if name = key then some value else get? more name :=
      lookup_cons key value more name
    show get? (setAll (set fields key value) more) name = _
    rw [hcons]
    by_cases hname : name = key
    · subst hname
      rw [get?_setAll_of_notMem hkey, get?_set, if_pos rfl, if_pos rfl, Option.some_or]
    · rw [ih hmore, get?_set, if_neg hname, if_neg hname]

/-- What holds of fields and is kept when a name is given a value, holds when names are given values. -/
theorem setAll_induction {fields more : Fields α} {P : Fields α → Prop} (h : P fields)
    (hset : ∀ fields name value, P fields → P (set fields name value)) : P (setAll fields more) :=
  List.foldlRecOn (motive := P) more _ h fun fields hfields field _ => hset fields field.1 field.2 hfields

theorem isSome_get?_set {key : String} (h : (get? fields name).isSome = true) :
    (get? (set fields key value) name).isSome = true := by
  rw [get?_set]
  split
  · rfl
  · exact h

theorem set_of_notMem (h : name ∉ names fields) : set fields name value = fields ++ [(name, value)] := by
  induction fields with
  | nil => rfl
  | cons field rest ih =>
    obtain ⟨key, old⟩ := field
    obtain ⟨hkey, hrest⟩ := not_or.1 (fun hmem => h (List.mem_cons.2 hmem))
    rw [set, if_neg (Ne.symm hkey), ih hrest, List.cons_append]

/-- Names that are given one value each, from no fields on, are left in their order. -/
theorem setAll_nil (hnodup : (names fields).Nodup) : setAll [] fields = fields := by
  induction fields using List.reverseRecOn with
  | nil => rfl
  | append_singleton fields field ih =>
    obtain ⟨key, value⟩ := field
    rw [names, List.map_append, List.nodup_append] at hnodup
    have hset : setAll [] (fields ++ [(key, value)]) = set (setAll [] fields) key value := by
      rw [setAll, List.foldl_append]; rfl
    have hkey : key ∉ names fields := fun hmem => hnodup.2.2 key hmem key List.mem_cons_self rfl
    rw [hset, ih hnodup.1, set_of_notMem hkey]

end Fields

namespace NameMap
variable {α : Type} {map : NameMap α} {name : String} {value : α}

theorem lookup_place (name : String) (value : α) (entries : List (String × α)) (other : String) :
    (place name value entries).lookup other =
      if other = name then some value else entries.lookup other := by
  induction entries with
  | nil => rw [place, lookup_cons]
  | cons entry rest ih =>
    obtain ⟨key, old⟩ := entry
    rw [place, lookup_cons key]
    by_cases hlt : name < key
    · rw [if_pos hlt, lookup_cons, lookup_cons]
    rw [if_neg hlt]
    by_cases hname : name = key
    · rw [if_pos hname, lookup_cons]
      by_cases hother : other = name
      · rw [if_pos hother, if_pos hother]
      · rw [if_neg hother, if_neg hother, if_neg (hname ▸ hother)]
    · rw [if_neg hname, lookup_cons, ih]
      by_cases hother : other = name
      · rw [if_pos hother, if_pos hother, if_neg (hother ▸ hname)]
      · rw [if_neg hother, if_neg hother]

@[simp] theorem get?_empty (name : String) : (empty : NameMap α).get? name = none := rfl

@[simp] theorem get?_insert (map : NameMap α) (name : String) (value : α) (other : String) :
    (map.insert name value).get? other = if other = name then some value else map.get? other :=
  lookup_place name value map.entries other

@[simp] theorem get?_erase (map : NameMap α) (name other : String) :
    (map.erase name).get? other = if other = name then none else map.get? other := by
  obtain ⟨entries, ascending⟩ := map
  simp only [erase, get?]
  clear ascending
  induction entries with
  | nil => simp
  | cons entry rest ih =>
    obtain ⟨key, value⟩ := entry
    by_cases hkey : key = name
    · rw [List.filter_cons_of_neg (by simp [hkey]), ih, lookup_cons, hkey]
      split_ifs <;> rfl
    · rw [List.filter_cons_of_pos (by simp [hkey]), lookup_cons, lookup_cons, ih]
      by_cases hother : other = key
      · rw [if_pos hother, if_neg (hother ▸ hkey)]; simp [hother]
      · simp [hother]

theorem has_iff : map.has name = true ↔ ∃ value, map.get? name = some value :=
  Option.isSome_iff_exists

@[simp] theorem has_insert (map : NameMap α) (name : String) (value : α) (other : String) :
    (map.insert name value).has other = true ↔ other = name ∨ map.has other = true := by
  by_cases h : other = name <;> simp [has, h]

@[simp] theorem has_erase (map : NameMap α) (name other : String) :
    (map.erase name).has other = true ↔ other ≠ name ∧ map.has other = true := by
  by_cases h : other = name <;> simp [has, h]

@[simp] theorem has_empty (name : String) : (empty : NameMap α).has name = false := rfl

theorem ofList_append (entries : List (String × α)) (entry : String × α) :
    ofList (entries ++ [entry]) = (ofList entries).insert entry.1 entry.2 := by
  rw [ofList, List.foldl_append]; rfl

theorem has_ofList {entries : List (String × α)} :
    (ofList entries).has name = true ↔ name ∈ Fields.names entries := by
  induction entries using List.reverseRecOn with
  | nil => simp [ofList, Fields.names]
  | append_singleton entries entry ih =>
    rw [ofList_append, has_insert, ih]
    simp [Fields.names, or_comm]

theorem get?_ofList {entries : List (String × α)} (hnodup : (Fields.names entries).Nodup) :
    (ofList entries).get? name = entries.lookup name := by
  induction entries using List.reverseRecOn with
  | nil => rfl
  | append_singleton entries entry ih =>
    obtain ⟨key, value⟩ := entry
    rw [Fields.names, List.map_append, List.nodup_append] at hnodup
    rw [ofList_append, get?_insert, ih hnodup.1, List.lookup_append, lookup_cons, List.lookup_nil]
    by_cases hname : name = key
    · subst hname
      have hnone : entries.lookup name = none := by
        rw [List.lookup_eq_none_iff]
        exact fun entry hentry => bne_iff_ne.2 fun heq =>
          hnodup.2.2 _ (List.mem_map_of_mem hentry) name List.mem_cons_self heq.symm
      rw [if_pos rfl, hnone, if_pos rfl, Option.none_or]
    · rw [if_neg hname, if_neg hname, Option.or_none]

theorem mem_of_get?_ofList {entries : List (String × α)} (h : (ofList entries).get? name = some value) :
    (name, value) ∈ entries := by
  induction entries using List.reverseRecOn with
  | nil => cases h
  | append_singleton entries entry ih =>
    rw [ofList_append, get?_insert] at h
    split at h
    · rename_i hname
      cases h
      rw [hname]
      exact List.mem_append_right _ (List.mem_singleton_self _)
    · exact List.mem_append_left _ (ih h)

theorem nodup_names : map.names.Nodup := by
  rw [names, List.Nodup, List.pairwise_map]
  refine map.ascending.imp fun {a b} hlt heq => ?_
  rw [heq] at hlt; exact String.lt_irrefl b.1 hlt

theorem mem_entries : (name, value) ∈ map.entries ↔ map.get? name = some value :=
  ⟨fun h => Fields.lookup_of_mem h nodup_names, Fields.mem_of_lookup⟩

/-- Maps with the same look-ups are the same map. -/
theorem ext {a b : NameMap α} (h : ∀ name, a.get? name = b.get? name) : a = b := by
  have : Std.Irrefl fun a b : String × α => a.1 < b.1 := ⟨fun a => String.lt_irrefl a.1⟩
  have : Std.Antisymm fun a b : String × α => a.1 < b.1 :=
    ⟨fun _ _ hab hba => absurd hab (String.lt_asymm hba)⟩
  have hentries : a.entries = b.entries :=
    a.ascending.eq_of_mem_iff b.ascending fun (name, value) => by rw [mem_entries, mem_entries, h]
  cases a; cases b; cases hentries; rfl

theorem ofList_entries (map : NameMap α) : ofList map.entries = map :=
  ext fun _ => get?_ofList nodup_names

theorem eq_empty_iff : map = empty ↔ ∀ name, map.has name = false := by
  refine ⟨fun h name => by rw [h]; rfl, fun h => ext fun name => ?_⟩
  rw [get?_empty, ← Option.not_isSome_iff_eq_none]
  exact Bool.not_eq_true _ ▸ h name

theorem isEmpty_iff : map.isEmpty = true ↔ map = empty := by
  rw [isEmpty, List.isEmpty_iff]
  constructor
  · intro h
    obtain ⟨entries, ascending⟩ := map
    subst h; rfl
  · intro h; rw [h]; rfl

end NameMap

namespace NameSet
variable {set : NameSet} {name other : String} {names : List String}

@[simp] theorem has_add : (set.add name).has other = true ↔ other = name ∨ set.has other = true := by
  by_cases h : other = name <;> simp [add, NameMap.has, h]

theorem has_addAll : (set.addAll names).has other = true ↔ set.has other = true ∨ other ∈ names := by
  induction names generalizing set with
  | nil => simp [addAll]
  | cons name names ih =>
    show ((set.add name).addAll names).has other = true ↔ _
    rw [ih, has_add, List.mem_cons, or_comm (a := other = name), or_assoc]

@[simp] theorem has_ofNames : (ofNames names).has other = true ↔ other ∈ names := by
  rw [ofNames, has_addAll]; simp [NameMap.has]

/-- Sets with the same names are the same set. -/
theorem ext {a b : NameSet} (h : ∀ name, a.has name = true ↔ b.has name = true) : a = b := by
  refine NameMap.ext fun name => ?_
  have hhas : (a.get? name).isSome = (b.get? name).isSome := Bool.eq_iff_iff.2 (h name)
  cases hb : b.get? name with
  | none =>
    rw [hb, Option.isSome_none] at hhas
    exact Option.isNone_iff_eq_none.1 (Option.isSome_eq_false_iff.1 hhas)
  | some value =>
    rw [hb, Option.isSome_some] at hhas
    exact Option.eq_some_of_isSome hhas

theorem ofNames_names (set : NameSet) : ofNames set.names = set := by
  calc ofNames set.names = .ofList (set.entries.map fun entry => (entry.1, ())) := by
        rw [ofNames, addAll, NameMap.names, NameMap.ofList, List.foldl_map, List.foldl_map]; rfl
    _ = .ofList set.entries := congrArg _ (List.map_id set.entries)
    _ = set := NameMap.ofList_entries set

end NameSet

end Formwork
