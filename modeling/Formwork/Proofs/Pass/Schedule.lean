import Formwork.Proofs.Graph.Exact
import Formwork.Proofs.Pass.Cycle

/-!
# The schedule of a pass

Of some candidates, an item feeds those that depend on the answer its rules write (`FeedsAmong`). The
schedule of the candidates is known from that alone (`schedules_exactly`): of all orders in which they
stand behind what feeds them it has the least, but for those on a cycle.

The items that a pass narrowed to some answers goes through feed no others. So their graph is a part of
that of all items, which no edge leaves, and the cycles in it are cycles of the form, never a piece of one
(`narrows_to_whole_cycles`).
-/

namespace Formwork.Form

variable {form : Form} {trigger : Trigger} {candidates cycle : List Nat} {answers : List String} {i j : Nat}

/-- Of two candidates, the second depends on the answer that the rules of the first write. -/
def FeedsAmong (form : Form) (candidates : List Nat) (i j : Nat) : Prop :=
  i ∈ candidates ∧ j ∈ candidates ∧
    ∃ item other, form.items[i]? = some item ∧ form.items[j]? = some other ∧ item.Feeds other

theorem mem_next_iff : j ∈ (form.dependencyGraph candidates).next i ↔ form.FeedsAmong candidates i j := by
  constructor
  · intro h
    obtain ⟨item, hitem, other, hother, rfl, rfl, hfeeds⟩ := exists_of_mem_next h
    obtain ⟨hi, hj, -⟩ := (mem_next_dependencyGraph hitem hother).1 h
    exact ⟨hi, hj, item, other, getElem?_index hitem, getElem?_index hother, hfeeds⟩
  · rintro ⟨hi, hj, item, other, hitem, hother, hfeeds⟩
    obtain rfl := index_eq_of_getElem? hitem
    obtain rfl := index_eq_of_getElem? hother
    have hitem := List.mem_of_getElem? hitem
    have hother := List.mem_of_getElem? hother
    exact (mem_next_dependencyGraph hitem hother).2 ⟨hi, hj, hfeeds⟩

theorem isExact_dependencyGraph (ascending : candidates.Pairwise (· < ·)) :
    (form.dependencyGraph candidates).schedule.IsExact (form.FeedsAmong candidates) candidates := by
  have hedge : form.FeedsAmong candidates = fun i j => j ∈ (form.dependencyGraph candidates).next i := by
    funext i j
    exact propext mem_next_iff.symm
  rw [hedge]
  refine Graph.schedule_isExact dependencyGraph_closed dependencyGraph_loopless (fun i j h => ?_) ascending
  exact (mem_next_iff.1 h).1

/-- Whatever the candidates, their sorting ends without taking away an edge that was not counted. The schedule
holds each of them once, behind those that feed it unless they share a cycle, and is the first by place of all
such orders. The cycles are the components of several candidates. No other order does all that, and the
schedule of a pass is the one for its candidates. -/
theorem schedules_exactly (form : Form) :
    (∀ candidates : List Nat, candidates.Pairwise (· < ·) →
      let graph := form.dependencyGraph candidates
      let schedule := graph.schedule
      (∃ sorting, graph.sort? schedule.cycles = some sorting ∧ sorting.order = schedule.order) ∧
      schedule.IsExact (form.FeedsAmong candidates) candidates ∧
      ∀ other : Schedule, other.IsExact (form.FeedsAmong candidates) candidates →
        other.order = schedule.order) ∧
    ∀ trigger, (form.schedule trigger).IsExact (form.FeedsAmong (form.candidates trigger))
      (form.candidates trigger) := by
  refine ⟨fun candidates ascending => ?_, fun trigger => ?_⟩
  · have hexact : (form.dependencyGraph candidates).schedule.IsExact (form.FeedsAmong candidates) candidates :=
      isExact_dependencyGraph ascending
    have hclosed : (form.dependencyGraph candidates).Closed := dependencyGraph_closed
    obtain ⟨sorting, hsort, horder⟩ := Graph.exists_sorting hclosed ascending
    exact ⟨⟨sorting, hsort, horder.trans (Graph.schedule_order hclosed ascending).symm⟩, hexact,
      fun other hother => hother.order_eq hexact⟩
  · exact isExact_dependencyGraph (ascending_candidates form trigger)

/-! ### A form with two cycles -/

/-- Euros and dollars repeat each other, and so do litres and gallons; a note is shown where gallons are
known. -/
def converterDefinition : Definition where
  id := "converter"
  title := "Converter"
  version := "1"
  views := [{ id := "only", items := [
    { id := "note", kind := .text, visible := some ⟨"data.gallon", ["gallon"]⟩ },
    { id := "euro", kind := .text, value := some ⟨"data.dollar", ["dollar"]⟩ },
    { id := "dollar", kind := .text, value := some ⟨"data.euro", ["euro"]⟩ },
    { id := "litre", kind := .text, value := some ⟨"data.gallon", ["gallon"]⟩ },
    { id := "gallon", kind := .text, value := some ⟨"data.litre", ["litre"]⟩ }] }]

def converter : Form where
  definition := converterDefinition
  sound := by decide
  views := _
  views_eq := rfl
  items := _
  items_eq := rfl
  index := _
  index_eq := rfl

/-- The note waits for the gallons, and so for the second cycle. -/
theorem schedules_exactly_converter :
    let places := [0, 1, 2, 3, 4]
    let schedule := (converter.dependencyGraph places).schedule
    places.Pairwise (· < ·) ∧ schedule.IsExact (converter.FeedsAmong places) places ∧
      schedule.order = [1, 2, 3, 4, 0] ∧ schedule.cycles = [[1, 2], [3, 4]] := by
  intro places schedule
  have hascending : places.Pairwise (· < ·) := by decide
  have hexact := ((schedules_exactly converter).1 places hascending).2.1
  exact ⟨hascending, hexact, by decide +kernel, by decide +kernel⟩

/-! ### Narrowed passes -/

/-- All that follows an affected item is affected. -/
theorem isPart_affected : (form.dependencyGraph (form.candidates (.changed answers))).IsPart
    (form.dependencyGraph (form.candidates .full)) := by
  have hrange : ∀ i ∈ form.affected answers, i ∈ List.range form.items.length := fun i hi =>
    List.mem_range.2 (lt_of_mem_affected hi)
  refine ⟨hrange, fun i hi j => ?_⟩
  rw [mem_next_iff, mem_next_iff]
  constructor
  · rintro ⟨hi, hj, hfeeds⟩
    exact ⟨hrange i hi, hrange j hj, hfeeds⟩
  · rintro ⟨-, -, item, other, hitem, hother, hfeeds⟩
    obtain rfl := index_eq_of_getElem? hitem
    obtain rfl := index_eq_of_getElem? hother
    have hj := mem_affected_of_feeds (List.mem_of_getElem? hitem) (List.mem_of_getElem? hother) hfeeds hi
    exact ⟨hi, hj, item, other, hitem, hother, hfeeds⟩

theorem mem_cycles_changed : cycle ∈ (form.schedule (.changed answers)).cycles ↔
    cycle ∈ (form.schedule .full).cycles ∧ ∃ i ∈ cycle, i ∈ form.affected answers :=
  Graph.mem_cycles_part isPart_affected dependencyGraph_closed dependencyGraph_closed

theorem itemId_inj (hi : i ∈ form.candidates trigger) (hj : j ∈ form.candidates trigger)
    (h : form.itemId i = form.itemId j) : i = j := by
  obtain ⟨item, hitem⟩ := exists_item_of_mem_candidates hi
  obtain ⟨other, hother⟩ := exists_item_of_mem_candidates hj
  obtain rfl := index_eq_of_getElem? hitem
  obtain rfl := index_eq_of_getElem? hother
  have hitem := List.mem_of_getElem? hitem
  have hother := List.mem_of_getElem? hother
  rw [itemId_index hitem, itemId_index hother] at h
  rw [item_ext_id hitem hother h]

/-- The groups that a pass over some changes reports are those of a pass over all rules that have an
affected item, and each lies among the affected items as a whole. -/
theorem narrows_to_whole_cycles (form : Form) (setting setting' : Setting) (state state' : State)
    (answers : List String) :
    let full := (form.runPass setting state .full).2.cycles
    let narrowed := (form.runPass setting' state' (.changed answers)).2.cycles
    let affected := (form.affected answers).map form.itemId
    (∀ group, group ∈ narrowed ↔ group ∈ full ∧ ∃ name ∈ group, name ∈ affected) ∧
    ∀ group ∈ narrowed, ∀ name ∈ group, name ∈ affected := by
  intro full narrowed affected
  have hfull : ∀ group, group ∈ full ↔
      ∃ cycle ∈ (form.schedule .full).cycles, cycle.map form.itemId = group := by
    intro group
    rw [show full = _ from cycles_runPass form setting state .full, List.mem_map]
  have hnarrowed : ∀ group, group ∈ narrowed ↔
      ∃ cycle ∈ (form.schedule (.changed answers)).cycles, cycle.map form.itemId = group := by
    intro group
    rw [show narrowed = _ from cycles_runPass form setting' state' (.changed answers), List.mem_map]
  refine ⟨fun group => ?_, fun group hgroup name hname => ?_⟩
  · rw [hfull, hnarrowed]
    constructor
    · rintro ⟨cycle, hcycle, rfl⟩
      obtain ⟨hcycle, i, hi, hmem⟩ := mem_cycles_changed.1 hcycle
      exact ⟨⟨cycle, hcycle, rfl⟩, form.itemId i, List.mem_map_of_mem hi, List.mem_map_of_mem hmem⟩
    · rintro ⟨⟨cycle, hcycle, rfl⟩, name, hname, hmem⟩
      obtain ⟨i, hi, rfl⟩ := List.mem_map.1 hname
      obtain ⟨j, hj, hsame⟩ := List.mem_map.1 hmem
      -- an id names one item, so the affected one is on the cycle
      obtain ⟨-, -, -, hcandidate⟩ := exists_item_of_mem_cycle hcycle hi
      obtain rfl := itemId_inj (List.mem_range.2 (lt_of_mem_affected hj)) hcandidate hsame
      exact ⟨cycle, mem_cycles_changed.2 ⟨hcycle, j, hi, hj⟩, rfl⟩
  · obtain ⟨cycle, hcycle, rfl⟩ := (hnarrowed group).1 hgroup
    obtain ⟨i, hi, rfl⟩ := List.mem_map.1 hname
    obtain ⟨-, -, -, hcandidate⟩ := exists_item_of_mem_cycle hcycle hi
    exact List.mem_map_of_mem hcandidate

/-- A pass over a change of the euros reports their cycle, and leaves the other one out. -/
theorem narrows_to_whole_cycles_converter :
    let narrowed := (converter.runPass {} {} (.changed ["euro"])).2.cycles
    ["euro", "dollar"] ∈ narrowed ∧ ["litre", "gallon"] ∈ (converter.runPass {} {} .full).2.cycles ∧
      ["litre", "gallon"] ∉ narrowed := by
  intro narrowed
  have hnarrows := (narrows_to_whole_cycles converter {} {} {} {} ["euro"]).1
  have haffected : "dollar" ∈ (converter.affected ["euro"]).map converter.itemId := by decide +kernel
  refine ⟨(hnarrows _).2 ⟨by decide +kernel, "dollar", by decide, haffected⟩, by decide +kernel, fun h => ?_⟩
  obtain ⟨-, name, hname, hmem⟩ := (hnarrows _).1 h
  have hnone : ∀ name ∈ ["litre", "gallon"], name ∉ (converter.affected ["euro"]).map converter.itemId := by
    decide +kernel
  exact hnone name hname hmem

end Formwork.Form
