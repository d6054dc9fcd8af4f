import Mathlib.Data.List.Flatten
import Formwork.Graph.Component
import Formwork.Proofs.Graph.Ascending
import Formwork.Proofs.Graph.Path

/-!
# What a descent keeps

The stack of a descent is cut by the path: above each node of the path lie the nodes that were met from it
and left again without a component (`Descent.Segment`). From each of these an earlier node of the stack is
reached, and the number that is noted for the node of the path lies below all that an edge of the segment
comes to. So if that number is its own when its edges are done, no way leads from the segment to an earlier
node of the stack, and the segment is the component of its node (`Segment.mem_iff_joined`).

`Descent.Inv` is what holds whatever the path is, and `Descent.Valid` joins the two. A step does not fail,
keeps them, and leaves the descent less room for steps (`Valid.step`); so it ends (`Valid.run`).
-/

namespace Formwork

namespace Descent

variable {graph : Graph} {descent descent' : Descent} {frames outer : List (Nat × Nat)}
  {stack above below : List Nat} {node parent cursor successor a b : Nat}

/-- A node was met. -/
def Met (descent : Descent) (a : Nat) : Prop := ∃ index, descent.index.lookup a = some index

/-- A node is in a component. -/
def Done (descent : Descent) (a : Nat) : Prop := ∃ component ∈ descent.components, a ∈ component

/-- The number that a node was given when it was met. -/
def indexOf (descent : Descent) (a : Nat) : Nat := (descent.index.lookup a).getD 0

/-- The least number that was found from a node. -/
def lowOf (descent : Descent) (a : Nat) : Nat := (descent.low.lookup a).getD 0

theorem Met.lookup (h : descent.Met a) : descent.index.lookup a = some (descent.indexOf a) := by
  obtain ⟨index, h⟩ := h
  rw [indexOf, h]; rfl

theorem lookup_cons_of_ne {marks : List (Nat × Nat)} {mark : Nat} (h : a ≠ b) :
    ((b, mark) :: marks).lookup a = marks.lookup a := by
  rw [List.lookup_cons, beq_false_of_ne h]

/-! ### Segments -/

/-- A node was met, and if it is on a stack, the number that is noted for a node of the path is not above
its own. -/
def Bounds (descent : Descent) (node : Nat) (stack : List Nat) (b : Nat) : Prop :=
  descent.Met b ∧ (b ∈ stack → descent.lowOf node ≤ descent.indexOf b)

/-- The part of the stack above a node of the path, some of whose edges were followed: what was met from it
and left again. -/
structure Segment (graph : Graph) (descent : Descent) (node cursor : Nat) (above below : List Nat) :
    Prop where
  cursor_le : cursor ≤ (graph.next node).length
  leads : ∀ a ∈ above, graph.Leads node a
  back : ∀ a ∈ above, ∃ b ∈ above ++ node :: below, descent.indexOf b < descent.indexOf a ∧ graph.Leads a b
  followed : ∀ b ∈ (graph.next node).take cursor, descent.Bounds node (above ++ node :: below) b
  left : ∀ a ∈ above, ∀ b ∈ graph.next a, descent.Bounds node (above ++ node :: below) b
  low_le : descent.lowOf node ≤ descent.indexOf node
  low : ∃ b ∈ above ++ node :: below, descent.indexOf b = descent.lowOf node ∧ graph.Leads node b

/-- The path cuts the stack into segments, and each node of the path leads to the next one. -/
inductive Path (graph : Graph) (descent : Descent) : List (Nat × Nat) → List Nat → Prop
  | nil : Path graph descent [] []
  | cons {node cursor : Nat} {frames : List (Nat × Nat)} {above below : List Nat} :
    Path graph descent frames below → Segment graph descent node cursor above below →
    (∀ frame ∈ frames.head?, graph.Leads frame.1 node) →
    Path graph descent ((node, cursor) :: frames) (above ++ node :: below)

/-- What is known of some nodes stays as it was. -/
structure Keeps (descent descent' : Descent) (nodes : List Nat) : Prop where
  met : ∀ a, descent.Met a → descent'.Met a
  index : ∀ a ∈ nodes, descent'.indexOf a = descent.indexOf a
  low : ∀ a ∈ nodes, descent'.lowOf a = descent.lowOf a

theorem Keeps.mono {more : List Nat} (h : Keeps descent descent' more) (hsub : ∀ a ∈ stack, a ∈ more) :
    Keeps descent descent' stack :=
  ⟨h.met, fun a ha => h.index a (hsub a ha), fun a ha => h.low a (hsub a ha)⟩

theorem Segment.keep (h : Segment graph descent node cursor above below)
    (hkeeps : Keeps descent descent' (above ++ node :: below)) :
    Segment graph descent' node cursor above below := by
  have hnode : node ∈ above ++ node :: below := by simp
  have hbounds : ∀ b, descent.Bounds node (above ++ node :: below) b →
      descent'.Bounds node (above ++ node :: below) b := by
    rintro b ⟨hmet, hlow⟩
    refine ⟨hkeeps.met b hmet, fun hb => ?_⟩
    rw [hkeeps.low node hnode, hkeeps.index b hb]
    exact hlow hb
  refine ⟨h.cursor_le, h.leads, fun a ha => ?_, fun b hb => hbounds b (h.followed b hb),
    fun a ha b hb => hbounds b (h.left a ha b hb), ?_, ?_⟩
  · obtain ⟨b, hb, hlt, hleads⟩ := h.back a ha
    exact ⟨b, hb, by rwa [hkeeps.index b hb, hkeeps.index a (List.mem_append_left _ ha)], hleads⟩
  · rw [hkeeps.low node hnode, hkeeps.index node hnode]
    exact h.low_le
  · obtain ⟨b, hb, heq, hleads⟩ := h.low
    exact ⟨b, hb, by rw [hkeeps.index b hb, hkeeps.low node hnode, heq], hleads⟩

theorem Path.keep (h : Path graph descent frames stack) (hkeeps : Keeps descent descent' stack) :
    Path graph descent' frames stack := by
  induction h with
  | nil => exact .nil
  | cons _ hsegment hleads ih =>
    exact .cons (ih (hkeeps.mono fun a ha => by simp [ha])) (hsegment.keep hkeeps) hleads

/-- One more edge of the node is followed. -/
theorem Segment.advance (h : Segment graph descent node cursor above below)
    (hnext : (graph.next node)[cursor]? = some successor)
    (hbounds : descent.Bounds node (above ++ node :: below) successor) :
    Segment graph descent node (cursor + 1) above below := by
  refine { h with cursor_le := (List.getElem?_eq_some_iff.1 hnext).1, followed := fun b hb => ?_ }
  rw [List.take_add_one, hnext] at hb
  rcases List.mem_append.1 hb with hb | hb
  · exact h.followed b hb
  · obtain rfl : b = successor := by simpa using hb
    exact hbounds

/-- A node that was just met stands alone. -/
theorem Segment.single (hself : descent.lowOf node = descent.indexOf node) (below : List Nat) :
    Segment graph descent node 0 [] below where
  cursor_le := Nat.zero_le _
  leads := nofun
  back := nofun
  followed := by simp
  left := nofun
  low_le := Nat.le_of_eq hself
  low := ⟨node, by simp, hself.symm, .refl⟩

/-- A number that the node leads to is noted for it. -/
theorem Segment.lowered (h : Segment graph descent node cursor above below)
    (hindex : descent'.index = descent.index)
    (hlow : descent'.lowOf node = min (descent.lowOf node) (descent.indexOf b))
    (hb : b ∈ above ++ node :: below) (hleads : graph.Leads node b) :
    Segment graph descent' node cursor above below := by
  have hmet : ∀ a, descent'.Met a ↔ descent.Met a := fun a => by rw [Met, Met, hindex]
  have hsame : ∀ a, descent'.indexOf a = descent.indexOf a := fun a => by rw [indexOf, indexOf, hindex]
  have hle : descent'.lowOf node ≤ descent.lowOf node := hlow ▸ Nat.min_le_left _ _
  have hbounds : ∀ b, descent.Bounds node (above ++ node :: below) b →
      descent'.Bounds node (above ++ node :: below) b := by
    rintro b ⟨hb, hbound⟩
    exact ⟨(hmet b).2 hb, fun hstack => by rw [hsame]; exact Nat.le_trans hle (hbound hstack)⟩
  refine ⟨h.cursor_le, h.leads, by simpa only [hsame] using h.back, fun b hb => hbounds b (h.followed b hb),
    fun a ha b hb => hbounds b (h.left a ha b hb), by rw [hsame]; exact Nat.le_trans hle h.low_le, ?_⟩
  rcases Nat.le_total (descent.lowOf node) (descent.indexOf b) with hmin | hmin
  · obtain ⟨c, hc, heq, hway⟩ := h.low
    exact ⟨c, hc, by rw [hsame, heq, hlow, Nat.min_eq_left hmin], hway⟩
  · exact ⟨b, hb, by rw [hsame, hlow, Nat.min_eq_right hmin], hleads⟩

/-- A segment whose node is left without a component goes to the node before it on the path. -/
theorem Segment.merge {cursor' : Nat} {above' : List Nat}
    (h : Segment graph descent node cursor above (above' ++ parent :: below))
    (hparent : Segment graph descent parent cursor' above' below) (hdone : (graph.next node).length ≤ cursor)
    (hleads : graph.Leads parent node) (hlt : descent.lowOf node < descent.indexOf node)
    (hindex : descent'.index = descent.index)
    (hlow : descent'.lowOf parent = min (descent.lowOf parent) (descent.lowOf node))
    (hafter : ∀ a ∈ above ++ [node], descent.indexOf parent < descent.indexOf a) :
    Segment graph descent' parent cursor' (above ++ node :: above') below := by
  have hstack : (above ++ node :: above') ++ parent :: below =
      above ++ node :: (above' ++ parent :: below) := by simp
  have hmet : ∀ a, descent'.Met a ↔ descent.Met a := fun a => by rw [Met, Met, hindex]
  have hsame : ∀ a, descent'.indexOf a = descent.indexOf a := fun a => by rw [indexOf, indexOf, hindex]
  have hown : ∀ b, descent.Bounds node (above ++ node :: (above' ++ parent :: below)) b →
      descent'.Bounds parent (above ++ node :: (above' ++ parent :: below)) b := by
    rintro b ⟨hb, hbound⟩
    refine ⟨(hmet b).2 hb, fun hstack => ?_⟩
    rw [hsame, hlow]
    exact Nat.le_trans (Nat.min_le_right _ _) (hbound hstack)
  -- an edge to what lies above is no harm, since all that lies there was met later
  have hother : ∀ b, descent.Bounds parent (above' ++ parent :: below) b →
      descent'.Bounds parent (above ++ node :: (above' ++ parent :: below)) b := by
    rintro b ⟨hb, hbound⟩
    refine ⟨(hmet b).2 hb, fun hstack => ?_⟩
    rw [hsame, hlow]
    refine Nat.le_trans (Nat.min_le_left _ _) ?_
    have hsplit : b ∈ above ++ [node] ∨ b ∈ above' ++ parent :: below := by simpa [or_assoc] using hstack
    rcases hsplit with habove | hbelow
    · exact Nat.le_trans hparent.low_le (Nat.le_of_lt (hafter b habove))
    · exact hbound hbelow
  have hbelow : ∀ b ∈ above' ++ parent :: below, b ∈ above ++ node :: (above' ++ parent :: below) :=
    fun b hb => List.mem_append_right _ (List.mem_cons_of_mem _ hb)
  refine ⟨hparent.cursor_le, ?_, ?_, ?_, ?_, ?_, ?_⟩
  · intro a ha
    rcases List.mem_append.1 ha with ha | ha
    · exact hleads.trans (h.leads a ha)
    · rcases List.mem_cons.1 ha with rfl | ha
      · exact hleads
      · exact hparent.leads a ha
  · intro a ha
    rw [hstack]
    simp only [hsame]
    rcases List.mem_append.1 ha with ha | ha
    · exact h.back a ha
    · rcases List.mem_cons.1 ha with rfl | ha
      · obtain ⟨b, hb, heq, hway⟩ := h.low
        exact ⟨b, hb, heq ▸ hlt, hway⟩
      · obtain ⟨b, hb, hback⟩ := hparent.back a ha
        exact ⟨b, hbelow b hb, hback⟩
  · intro b hb
    rw [hstack]
    exact hother b (hparent.followed b hb)
  · intro a ha b hb
    rw [hstack]
    rcases List.mem_append.1 ha with ha | ha
    · exact hown b (h.left a ha b hb)
    · rcases List.mem_cons.1 ha with rfl | ha
      · exact hown b (h.followed b (by rwa [List.take_of_length_le hdone]))
      · exact hother b (hparent.left a ha b hb)
  · rw [hsame, hlow]
    exact Nat.le_trans (Nat.min_le_left _ _) hparent.low_le
  · rw [hstack]
    simp only [hsame, hlow]
    rcases Nat.le_total (descent.lowOf parent) (descent.lowOf node) with hmin | hmin
    · obtain ⟨b, hb, heq, hway⟩ := hparent.low
      exact ⟨b, hbelow b hb, by rw [heq, Nat.min_eq_left hmin], hway⟩
    · obtain ⟨b, hb, heq, hway⟩ := h.low
      exact ⟨b, hb, by rw [heq, Nat.min_eq_right hmin], hleads.trans hway⟩

/-! ### The invariant -/

/-- What holds of a descent whatever its path is. -/
structure Inv (graph : Graph) (descent : Descent) : Prop where
  index_lt : ∀ a, descent.Met a → descent.indexOf a < descent.counter
  nodes : ∀ a, descent.Met a → a ∈ graph.nodes
  noted : ∀ a ∈ descent.stack, descent.low.lookup a = some (descent.lowOf a)
  decreasing : descent.stack.Pairwise fun a b => descent.indexOf b < descent.indexOf a
  onStack : ∀ a, a ∈ descent.onStack ↔ a ∈ descent.stack
  met : ∀ a, descent.Met a ↔ a ∈ descent.stack ∨ descent.Done a
  apart : ∀ a ∈ descent.stack, ¬ descent.Done a
  closed : ∀ a, descent.Done a → ∀ b ∈ graph.next a, descent.Done b
  component : ∀ component ∈ descent.components, component.Pairwise (· < ·) ∧
    ∃ a ∈ component, ∀ b, b ∈ component ↔ graph.Joined a b
  ordered : descent.components.Pairwise fun first second => ∀ a ∈ first, ∀ b ∈ second, ¬ graph.Leads a b

theorem Inv.done_of_leads (h : Inv graph descent) (ha : descent.Done a) (hleads : graph.Leads a b) :
    descent.Done b := by
  induction hleads with
  | refl => exact ha
  | tail _ hstep ih => exact h.closed _ ih _ hstep

section Root

variable (hinv : Inv graph descent) (hstack : descent.stack = above ++ node :: below)
  (h : Segment graph descent node cursor above below) (hdone : (graph.next node).length ≤ cursor)
  (hroot : descent.lowOf node = descent.indexOf node)

include hinv hstack

theorem index_below_lt (hb : b ∈ below) : descent.indexOf b < descent.indexOf node := by
  have hdecreasing := hinv.decreasing
  rw [hstack] at hdecreasing
  exact (List.pairwise_cons.1 (List.pairwise_append.1 hdecreasing).2.1).1 b hb

theorem index_node_le (ha : a ∈ above ++ [node]) : descent.indexOf node ≤ descent.indexOf a := by
  have hdecreasing := hinv.decreasing
  rw [hstack] at hdecreasing
  rcases List.mem_append.1 ha with ha | ha
  · exact Nat.le_of_lt ((List.pairwise_append.1 hdecreasing).2.2 a ha node List.mem_cons_self)
  · rw [List.mem_singleton.1 ha]

include h hdone hroot

/-- If the number of the node is the least that was found from it, no way leads from its segment to what lies
below. -/
theorem Segment.own_or_done (ha : a ∈ above ++ [node]) (hleads : graph.Leads a b) :
    b ∈ above ++ [node] ∨ descent.Done b := by
  have hstep : ∀ b, descent.Bounds node (above ++ node :: below) b →
      b ∈ above ++ [node] ∨ descent.Done b := by
    rintro b ⟨hmet, hbound⟩
    rcases (hinv.met b).1 hmet with hb | hb
    · rw [hstack] at hb
      have hsplit : b ∈ above ++ [node] ∨ b ∈ below := by simpa [or_assoc] using hb
      refine .inl (hsplit.resolve_right fun hbelow => ?_)
      have := index_below_lt hinv hstack hbelow
      have := hbound hb
      omega
    · exact .inr hb
  induction hleads with
  | refl => exact .inl ha
  | @tail b c _ hnext ih =>
    rcases ih with hb | hb
    · rcases List.mem_append.1 hb with hb | hb
      · exact hstep c (h.left b hb c hnext)
      · rw [List.mem_singleton.1 hb] at hnext
        exact hstep c (h.followed c (by rwa [List.take_of_length_le hdone]))
    · exact .inr (hinv.closed b hb c hnext)

/-- From each node of the segment an earlier one is reached, and so at last its own node. -/
theorem Segment.leads_back (ha : a ∈ above ++ [node]) : graph.Leads a node := by
  induction hindex : descent.indexOf a using Nat.strong_induction_on generalizing a with
  | _ index ih =>
    rcases List.mem_append.1 ha with habove | hnode
    · obtain ⟨b, hb, hlt, hleads⟩ := h.back a habove
      rcases h.own_or_done hinv hstack hdone hroot ha hleads with hown | hb'
      · exact hleads.trans (ih _ (hindex ▸ hlt) hown rfl)
      · exact absurd hb' (hinv.apart b (hstack ▸ hb))
    · rw [List.mem_singleton.1 hnode]
      exact .refl

/-- Then the segment is the component of its node. -/
theorem Segment.mem_iff_joined : b ∈ above ++ [node] ↔ graph.Joined node b := by
  have hnode : node ∈ above ++ [node] := by simp
  constructor
  · intro hb
    refine ⟨?_, h.leads_back hinv hstack hdone hroot hb⟩
    rcases List.mem_append.1 hb with habove | hself
    · exact h.leads b habove
    · rw [List.mem_singleton.1 hself]
      exact .refl
  · rintro ⟨hto, hback⟩
    rcases h.own_or_done hinv hstack hdone hroot hnode hto with hown | hb
    · exact hown
    · exact absurd (hinv.done_of_leads hb hback) (hinv.apart node (by rw [hstack]; simp))

end Root

/-! ### One more node -/

theorem met_enter : (descent.enter node).Met a ↔ a = node ∨ descent.Met a := by
  rw [Met, Met, enter, List.lookup_cons]
  by_cases h : a = node
  · simp [h]
  · simp [h, beq_false_of_ne h]

theorem indexOf_enter_self : (descent.enter node).indexOf node = descent.counter := by
  rw [indexOf, enter, List.lookup_cons_self]; rfl

theorem lowOf_enter_self : (descent.enter node).lowOf node = descent.counter := by
  rw [lowOf, enter, List.lookup_cons_self]; rfl

theorem indexOf_enter_of_ne (h : a ≠ node) : (descent.enter node).indexOf a = descent.indexOf a := by
  rw [indexOf, enter, lookup_cons_of_ne h]; rfl

theorem lookup_low_enter_of_ne (h : a ≠ node) : (descent.enter node).low.lookup a = descent.low.lookup a :=
  lookup_cons_of_ne h

theorem Inv.met_of_mem (h : Inv graph descent) (ha : a ∈ descent.stack) : descent.Met a :=
  (h.met a).2 (.inl ha)

theorem ne_of_met (hnew : ¬ descent.Met node) (ha : descent.Met a) : a ≠ node := by
  rintro rfl
  exact hnew ha

theorem Inv.keeps_enter (h : Inv graph descent) (hnew : ¬ descent.Met node) :
    Keeps descent (descent.enter node) descent.stack := by
  have hne : ∀ a ∈ descent.stack, a ≠ node := fun a ha => ne_of_met hnew (h.met_of_mem ha)
  refine ⟨fun a ha => met_enter.2 (.inr ha), fun a ha => indexOf_enter_of_ne (hne a ha), fun a ha => ?_⟩
  rw [lowOf, lowOf, lookup_low_enter_of_ne (hne a ha)]

theorem Inv.enter (h : Inv graph descent) (hnode : node ∈ graph.nodes) (hnew : ¬ descent.Met node) :
    Inv graph (descent.enter node) := by
  have hkeeps := h.keeps_enter hnew
  have hstack : ∀ a, a ∈ (descent.enter node).stack ↔ a = node ∨ a ∈ descent.stack := fun a => List.mem_cons
  have hdone : ¬ descent.Done node := fun hdone => hnew ((h.met node).2 (.inr hdone))
  refine ⟨fun a ha => ?_, fun a ha => ?_, fun a ha => ?_, ?_, fun a => ?_, fun a => ?_, fun a ha => ?_,
    h.closed, h.component, h.ordered⟩
  · show (descent.enter node).indexOf a < descent.counter + 1
    rcases met_enter.1 ha with rfl | ha
    · rw [indexOf_enter_self]; exact Nat.lt_succ_self _
    · rw [indexOf_enter_of_ne (ne_of_met hnew ha)]
      exact Nat.lt_succ_of_lt (h.index_lt a ha)
  · rcases met_enter.1 ha with rfl | ha
    · exact hnode
    · exact h.nodes a ha
  · rcases (hstack a).1 ha with rfl | ha
    · rw [lowOf_enter_self]; exact List.lookup_cons_self
    · rw [hkeeps.low a ha, lookup_low_enter_of_ne (ne_of_met hnew (h.met_of_mem ha))]
      exact h.noted a ha
  · refine List.pairwise_cons.2 ⟨fun a ha => ?_, ?_⟩
    · rw [hkeeps.index a ha, indexOf_enter_self]
      exact h.index_lt a (h.met_of_mem ha)
    · refine h.decreasing.imp_of_mem fun {a b} ha hb hlt => ?_
      rwa [hkeeps.index a ha, hkeeps.index b hb]
  · rw [hstack, ← h.onStack a]
    exact List.mem_cons
  · rw [met_enter, hstack, h.met a, or_assoc]
    rfl
  · rcases (hstack a).1 ha with rfl | ha
    · exact hdone
    · exact h.apart a ha

/-- The descent whose path is replaced. -/
theorem Inv.withFrames (h : Inv graph descent) (frames : List (Nat × Nat)) :
    Inv graph { descent with frames := frames } :=
  ⟨h.index_lt, h.nodes, h.noted, h.decreasing, h.onStack, h.met, h.apart, h.closed, h.component, h.ordered⟩

/-! ### A lower number -/

/-- A number is noted for a node. -/
def note (descent : Descent) (node low : Nat) : Descent :=
  { descent with low := (node, low) :: descent.low }

theorem lower_eq {found : Nat} (h : descent.low.lookup node = some (descent.lowOf node)) :
    descent.lower node found = some (descent.note node (min (descent.lowOf node) found)) := by
  rw [lower, h]; rfl

theorem lowOf_note_self (low : Nat) : (descent.note node low).lowOf node = low := by
  rw [lowOf, note, List.lookup_cons_self]; rfl

theorem lowOf_note_of_ne (low : Nat) (h : a ≠ node) : (descent.note node low).lowOf a = descent.lowOf a := by
  rw [lowOf, note, lookup_cons_of_ne h]; rfl

theorem Inv.note (h : Inv graph descent) (node low : Nat) : Inv graph (descent.note node low) := by
  refine ⟨h.index_lt, h.nodes, fun a ha => ?_, h.decreasing, h.onStack, h.met, h.apart, h.closed,
    h.component, h.ordered⟩
  by_cases heq : a = node
  · subst heq
    rw [lowOf_note_self]
    exact List.lookup_cons_self
  · rw [lowOf_note_of_ne low heq]
    exact (lookup_cons_of_ne heq).trans (h.noted a ha)

/-! ### Components -/

theorem popThrough_eq (h : node ∉ above) :
    popThrough node (above ++ node :: below) = (above ++ [node], below) := by
  induction above with
  | nil => simp [popThrough]
  | cons first above ih =>
    obtain ⟨hfirst, hrest⟩ := not_or.1 (mt List.mem_cons.2 h)
    simp [popThrough, Ne.symm hfirst, ih hrest]

theorem Inv.nodup_stack (h : Inv graph descent) : descent.stack.Nodup :=
  h.decreasing.imp fun {a b} hlt heq => by rw [heq] at hlt; exact Nat.lt_irrefl _ hlt

theorem Inv.close_eq (h : Inv graph descent) (hstack : descent.stack = above ++ node :: below) :
    descent.close node = { descent with
      stack := below
      onStack := descent.onStack.filter fun member => !(above ++ [node]).contains member
      components := descent.components ++ [ascending (above ++ [node])] } := by
  have hnodup := h.nodup_stack
  rw [hstack] at hnodup
  have hnode : node ∉ above := fun hmem =>
    (List.nodup_append.1 hnodup).2.2 node hmem node List.mem_cons_self rfl
  rw [close, hstack, popThrough_eq hnode]

theorem Inv.close (h : Inv graph descent) (hstack : descent.stack = above ++ node :: below)
    (hown : ∀ b, b ∈ above ++ [node] ↔ graph.Joined node b)
    (hclosed : ∀ a ∈ above ++ [node], ∀ b, graph.Leads a b → b ∈ above ++ [node] ∨ descent.Done b) :
    Inv graph (descent.close node) := by
  have hmem : ∀ a, a ∈ descent.stack ↔ a ∈ above ++ [node] ∨ a ∈ below := fun a => by
    rw [hstack]; simp [or_assoc]
  have hasc : ∀ a, a ∈ ascending (above ++ [node]) ↔ a ∈ above ++ [node] := fun a =>
    (ascending_perm _).mem_iff
  have hdone : ∀ a, (descent.close node).Done a ↔ descent.Done a ∨ a ∈ above ++ [node] := fun a => by
    rw [Done, Done, h.close_eq hstack]
    simp only [List.mem_append, List.mem_singleton, or_and_right, exists_or, exists_eq_left, hasc]
  have hnodup : (above ++ [node] ++ below).Nodup := by
    simpa [hstack] using h.nodup_stack
  have hbelow : ∀ a ∈ below, a ∈ descent.stack := fun a ha => (hmem a).2 (.inr ha)
  rw [h.close_eq hstack] at hdone ⊢
  refine ⟨h.index_lt, h.nodes, fun a ha => h.noted a (hbelow a ha), ?_, fun a => ?_, fun a => ?_,
    fun a ha => ?_, fun a ha b hb => ?_, ?_, ?_⟩
  · have hdecreasing := h.decreasing
    rw [hstack] at hdecreasing
    exact (List.pairwise_cons.1 (List.pairwise_append.1 hdecreasing).2.1).2
  · have happart : a ∈ above ++ [node] → a ∉ below :=
      fun ha hb => (List.nodup_append.1 hnodup).2.2 a ha a hb rfl
    have hfilter : a ∈ descent.onStack.filter (fun member => !(above ++ [node]).contains member) ↔
        a ∈ descent.stack ∧ a ∉ above ++ [node] := by
      rw [List.mem_filter, h.onStack, Bool.not_eq_true', Bool.eq_false_iff, ne_eq, List.contains_iff_mem]
    show a ∈ descent.onStack.filter (fun member => !(above ++ [node]).contains member) ↔ a ∈ below
    rw [hfilter, hmem]
    exact ⟨fun ⟨hor, hnot⟩ => hor.resolve_left hnot, fun hb => ⟨.inr hb, fun ha => happart ha hb⟩⟩
  · rw [hdone]
    show descent.Met a ↔ a ∈ below ∨ _
    rw [h.met, hmem]
    tauto
  · rw [hdone]
    rintro (hold | hnew)
    · exact h.apart a (hbelow a ha) hold
    · exact (List.nodup_append.1 hnodup).2.2 a hnew a ha rfl
  · rw [hdone] at ha ⊢
    rcases ha with ha | ha
    · exact .inl (h.closed a ha b hb)
    · exact (hclosed a ha b (.single hb)).symm
  · intro component hcomponent
    rcases List.mem_append.1 hcomponent with hold | hnew
    · exact h.component component hold
    · rw [List.mem_singleton.1 hnew]
      refine ⟨pairwise_ascending (List.nodup_append.1 hnodup).1, node, (hasc node).2 (by simp), fun b => ?_⟩
      rw [hasc, hown]
  · refine List.pairwise_append.2 ⟨h.ordered, List.pairwise_singleton .., ?_⟩
    intro first hfirst second hsecond a ha b hb hleads
    rw [List.mem_singleton.1 hsecond, hasc] at hb
    exact h.apart b ((hmem b).2 (.inl hb)) (h.done_of_leads ⟨first, hfirst, ha⟩ hleads)

/-! ### Back along the path -/

/-- The descent with a shorter path, whose last node has noted what was found from the one behind it. -/
def turnBack (descent : Descent) (found : Nat) : List (Nat × Nat) → Descent
  | [] => { descent with frames := [] }
  | frame :: outer =>
    { descent with frames := frame :: outer }.note frame.1 (min (descent.lowOf frame.1) found)

theorem Inv.turnBack (h : Inv graph descent) (found : Nat) (outer : List (Nat × Nat)) :
    Inv graph (descent.turnBack found outer) := by
  cases outer with
  | nil => exact h.withFrames []
  | cons frame outer => exact (h.withFrames _).note _ _

theorem Inv.leave_eq (h : Inv graph descent) (hnode : node ∈ descent.stack)
    (houter : ∀ frame ∈ outer.head?, frame.1 ∈ descent.stack) : descent.leave node outer =
      some (if descent.lowOf node = descent.indexOf node then
        (descent.turnBack (descent.lowOf node) outer).close node
      else descent.turnBack (descent.lowOf node) outer) := by
  have hindex := (h.met_of_mem hnode).lookup
  rw [leave, h.noted node hnode]
  cases outer with
  | nil =>
    simp only [Option.bind_eq_bind, Option.bind_some, hindex]
    rfl
  | cons frame outer =>
    have hparent := h.noted frame.1 (houter frame rfl)
    have hlower : { descent with frames := frame :: outer }.lower frame.1 (descent.lowOf node) =
        some (descent.turnBack (descent.lowOf node) (frame :: outer)) := lower_eq hparent
    have hindex : (descent.turnBack (descent.lowOf node) (frame :: outer)).index.lookup node = _ := hindex
    simp only [Option.bind_eq_bind, Option.bind_some, hlower, hindex]
    rfl

theorem Path.mem_stack (h : Path graph descent frames stack) : ∀ frame ∈ frames, frame.1 ∈ stack := by
  induction h with
  | nil => exact nofun
  | cons _ _ _ ih =>
    refine List.forall_mem_cons.2 ⟨by simp, fun frame hframe => ?_⟩
    exact List.mem_append_right _ (List.mem_cons_of_mem _ (ih frame hframe))

theorem Path.stack_eq_nil (h : Path graph descent frames stack) (hframes : frames = []) : stack = [] := by
  cases h with
  | nil => rfl
  | cons => cases hframes

theorem Path.low_le (h : Path graph descent frames stack) :
    ∀ frame ∈ frames, descent.lowOf frame.1 ≤ descent.indexOf frame.1 := by
  induction h with
  | nil => exact nofun
  | cons _ hsegment _ ih => exact List.forall_mem_cons.2 ⟨hsegment.low_le, ih⟩

theorem Path.cursor_le (h : Path graph descent frames stack) :
    ∀ frame ∈ frames, frame.2 ≤ (graph.next frame.1).length := by
  induction h with
  | nil => exact nofun
  | cons _ hsegment _ ih => exact List.forall_mem_cons.2 ⟨hsegment.cursor_le, ih⟩

@[simp] theorem stack_turnBack (found : Nat) (outer : List (Nat × Nat)) :
    (descent.turnBack found outer).stack = descent.stack := by cases outer <;> rfl

@[simp] theorem frames_turnBack (found : Nat) (outer : List (Nat × Nat)) :
    (descent.turnBack found outer).frames = outer := by cases outer <;> rfl

@[simp] theorem index_turnBack (found : Nat) (outer : List (Nat × Nat)) :
    (descent.turnBack found outer).index = descent.index := by cases outer <;> rfl

@[simp] theorem components_turnBack (found : Nat) (outer : List (Nat × Nat)) :
    (descent.turnBack found outer).components = descent.components := by cases outer <;> rfl

theorem lowOf_turnBack_self (found : Nat) :
    (descent.turnBack found ((parent, cursor) :: outer)).lowOf parent = min (descent.lowOf parent) found :=
  lowOf_note_self _

theorem lowOf_turnBack_of_ne (found : Nat) (h : a ≠ parent) :
    (descent.turnBack found ((parent, cursor) :: outer)).lowOf a = descent.lowOf a :=
  lowOf_note_of_ne _ h

theorem keeps_turnBack {found : Nat} (h : ∀ frame ∈ outer.head?, frame.1 ∈ stack →
    descent.lowOf frame.1 ≤ found) : Keeps descent (descent.turnBack found outer) stack := by
  refine ⟨fun a ha => ?_, fun a _ => ?_, fun a ha => ?_⟩
  · rwa [Met, index_turnBack]
  · rw [indexOf, index_turnBack]; rfl
  · cases outer with
    | nil => rfl
    | cons frame outer =>
      obtain ⟨parent, cursor⟩ := frame
      by_cases heq : a = parent
      · subst heq
        rw [lowOf_turnBack_self, Nat.min_eq_left (h _ rfl ha)]
      · exact lowOf_turnBack_of_ne found heq

/-- Going back from the first node of a component completes it. -/
theorem Inv.leave_root (h : Inv graph descent) (hstack : descent.stack = above ++ node :: below)
    (hpath : Path graph descent outer below) (hsegment : Segment graph descent node cursor above below)
    (hdone : (graph.next node).length ≤ cursor) (hroot : descent.lowOf node = descent.indexOf node) :
    let descent' := (descent.turnBack (descent.lowOf node) outer).close node
    Inv graph descent' ∧ Path graph descent' outer descent'.stack ∧ descent'.frames = outer ∧
      descent'.index = descent.index := by
  have hinv := h.turnBack (descent.lowOf node) outer
  have hstack' : (descent.turnBack (descent.lowOf node) outer).stack = above ++ node :: below := by
    rw [stack_turnBack, hstack]
  have hkeeps : Keeps descent (descent.turnBack (descent.lowOf node) outer) below := by
    refine keeps_turnBack fun frame hframe hbelow => ?_
    have hlow := hpath.low_le frame (List.mem_of_mem_head? hframe)
    have hlt := index_below_lt h hstack hbelow
    omega
  have hclose := hinv.close hstack' (fun b => hsegment.mem_iff_joined h hstack hdone hroot)
    fun a ha b hleads => by
      rw [Done, components_turnBack]
      exact hsegment.own_or_done h hstack hdone hroot ha hleads
  rw [hinv.close_eq hstack'] at hclose ⊢
  exact ⟨hclose, (hpath.keep hkeeps).keep ⟨fun _ ha => ha, fun _ _ => rfl, fun _ _ => rfl⟩,
    frames_turnBack .., index_turnBack ..⟩

/-- Going back from another node leaves it with the nodes that the one before it on the path has left. -/
theorem Inv.leave_inner (h : Inv graph descent) (hstack : descent.stack = above ++ node :: below)
    (hpath : Path graph descent outer below) (hsegment : Segment graph descent node cursor above below)
    (hleads : ∀ frame ∈ outer.head?, graph.Leads frame.1 node)
    (hdone : (graph.next node).length ≤ cursor) (hlt : descent.lowOf node < descent.indexOf node) :
    Path graph (descent.turnBack (descent.lowOf node) outer) outer descent.stack := by
  rw [hstack]
  cases hpath with
  | nil =>
    -- from the first node of the path nothing earlier can have been found
    obtain ⟨b, hb, hindex, -⟩ := hsegment.low
    have := index_node_le h hstack hb
    omega
  | @cons parent cursor' rest above' below' hrest hparent hleads' =>
    have hnodup := h.nodup_stack
    rw [hstack] at hnodup
    have hparents : parent ∉ below' := by
      have hrest := (List.nodup_cons.1 (List.nodup_append.1 hnodup).2.1).2
      exact (List.nodup_cons.1 (List.nodup_append.1 hrest).2.1).1
    have hafter : ∀ a ∈ above ++ [node], descent.indexOf parent < descent.indexOf a := fun a ha =>
      Nat.lt_of_lt_of_le (index_below_lt h hstack (by simp)) (index_node_le h hstack ha)
    have hlow : (descent.turnBack (descent.lowOf node) ((parent, cursor') :: rest)).lowOf parent = _ :=
      lowOf_turnBack_self _
    have hmerged := hsegment.merge hparent hdone (hleads _ rfl) hlt (index_turnBack ..) hlow hafter
    have hkept : Path graph (descent.turnBack (descent.lowOf node) ((parent, cursor') :: rest)) rest below' :=
      hrest.keep (keeps_turnBack fun frame hframe hmem => by cases hframe; exact absurd hmem hparents)
    have hpath := Path.cons hkept hmerged hleads'
    simpa using hpath

/-- Going back keeps the invariant. -/
theorem Inv.leave (h : Inv graph descent) (hpath : Path graph descent ((node, cursor) :: outer) descent.stack)
    (hdone : (graph.next node).length ≤ cursor) : ∃ descent', descent.leave node outer = some descent' ∧
      Inv graph descent' ∧ Path graph descent' outer descent'.stack ∧ descent'.frames = outer ∧
      descent'.index = descent.index := by
  generalize hstack : descent.stack = stack at hpath
  cases hpath with
  | @cons _ _ _ above below hbelow hsegment hleads =>
    have hnode : node ∈ descent.stack := by rw [hstack]; simp
    have houter : ∀ frame ∈ outer.head?, frame.1 ∈ descent.stack := fun frame hframe => by
      have := hbelow.mem_stack frame (List.mem_of_mem_head? hframe)
      rw [hstack]; simp [this]
    rw [h.leave_eq hnode houter]
    refine ⟨_, rfl, ?_⟩
    by_cases hroot : descent.lowOf node = descent.indexOf node
    · rw [if_pos hroot]
      exact h.leave_root hstack hbelow hsegment hdone hroot
    · rw [if_neg hroot, stack_turnBack]
      have hlt := Nat.lt_of_le_of_ne hsegment.low_le hroot
      exact ⟨h.turnBack .., h.leave_inner hstack hbelow hsegment hleads hdone hlt, frames_turnBack ..,
        index_turnBack ..⟩

/-! ### Along an edge -/

/-- The next edge of the last node of the path is followed. -/
def advance (descent : Descent) (node cursor : Nat) (outer : List (Nat × Nat)) : Descent :=
  { descent with frames := (node, cursor + 1) :: outer }

theorem keeps_advance (stack : List Nat) : Keeps descent (descent.advance node cursor outer) stack :=
  ⟨fun _ ha => ha, fun _ _ => rfl, fun _ _ => rfl⟩

section Edge

variable (h : Inv graph descent) (hstack : descent.stack = above ++ node :: below)
  (hpath : Path graph descent outer below) (hsegment : Segment graph descent node cursor above below)
  (hleads : ∀ frame ∈ outer.head?, graph.Leads frame.1 node)
  (hnext : (graph.next node)[cursor]? = some successor)

include hstack hpath hsegment hleads hnext

/-- An edge to a node of a component changes nothing else. -/
theorem Path.follow_done (hmet : descent.Met successor) (hmem : successor ∉ descent.stack) :
    Path graph (descent.advance node cursor outer) ((node, cursor + 1) :: outer) descent.stack := by
  have hbounds : descent.Bounds node (above ++ node :: below) successor :=
    ⟨hmet, fun hstack' => absurd (hstack ▸ hstack') hmem⟩
  rw [hstack]
  exact (Path.cons hpath (hsegment.advance hnext hbounds) hleads).keep (keeps_advance _)

include h

/-- An edge to a node on the stack: its number is noted. -/
theorem Inv.follow_stack (hmem : successor ∈ descent.stack) :
    let descent' := (descent.advance node cursor outer).note node
      (min (descent.lowOf node) (descent.indexOf successor))
    (descent.advance node cursor outer).lower node (descent.indexOf successor) = some descent' ∧
      Inv graph descent' ∧ Path graph descent' descent'.frames descent'.stack := by
  intro descent'
  have hlow : descent'.lowOf node = min (descent.lowOf node) (descent.indexOf successor) := lowOf_note_self _
  have hnodup := h.nodup_stack
  rw [hstack] at hnodup hmem
  have hself : node ∉ below := (List.nodup_cons.1 (List.nodup_append.1 hnodup).2.1).1
  have hkeeps : Keeps descent descent' below :=
    ⟨fun _ ha => ha, fun _ _ => rfl, fun a ha => lowOf_note_of_ne _ fun heq => hself (heq ▸ ha)⟩
  have hlowered : Segment graph descent' node cursor above below :=
    hsegment.lowered rfl hlow hmem (.single (List.mem_of_getElem? hnext))
  have hmet : descent'.Met successor := h.met_of_mem (hstack ▸ hmem)
  have hbounds : descent'.Bounds node (above ++ node :: below) successor :=
    ⟨hmet, fun _ => by rw [hlow]; exact Nat.min_le_right _ _⟩
  refine ⟨lower_eq (h.noted node (by rw [hstack]; simp)), (h.withFrames _).note _ _, ?_⟩
  show Path graph descent' ((node, cursor + 1) :: outer) descent.stack
  rw [hstack]
  exact .cons (hpath.keep hkeeps) (hlowered.advance hnext hbounds) hleads

/-- An edge to a node that was not met makes it the last one of the path. -/
theorem Inv.follow_new (hnew : ¬ descent.Met successor) :
    let descent' := (descent.advance node cursor outer).enter successor
    Path graph descent' descent'.frames descent'.stack := by
  intro descent'
  have hadvanced : Inv graph (descent.advance node cursor outer) := h.withFrames _
  have hkeeps : Keeps descent descent' (above ++ node :: below) := hstack ▸
    have hentered := hadvanced.keeps_enter hnew
    ⟨hentered.met, hentered.index, hentered.low⟩
  have hbounds : descent'.Bounds node (above ++ node :: below) successor :=
    ⟨met_enter.2 (.inl rfl), fun hmem => absurd (h.met_of_mem (hstack ▸ hmem)) hnew⟩
  have hsingle : Segment graph descent' successor 0 [] descent.stack :=
    .single (lowOf_enter_self.trans indexOf_enter_self.symm) _
  refine .cons ?_ hsingle fun frame hframe => ?_
  · show Path graph descent' ((node, cursor + 1) :: outer) descent.stack
    rw [hstack]
    exact .cons (hpath.keep (hkeeps.mono fun a ha => by simp [ha]))
      ((hsegment.keep hkeeps).advance hnext hbounds) hleads
  · cases hframe
    exact .single (List.mem_of_getElem? hnext)

end Edge

/-! ### Steps -/

/-- What holds of a descent at each step. -/
structure Valid (graph : Graph) (descent : Descent) : Prop extends Inv graph descent where
  path : Path graph descent descent.frames descent.stack

/-- Where the steps of a node lead: along each of its edges, and back to it in the end. -/
def tour (graph : Graph) (a : Nat) : List Nat := graph.next a ++ [a]

/-- The steps of a node if it was not met. -/
def ahead (graph : Graph) (descent : Descent) (a : Nat) : List Nat :=
  if (descent.index.lookup a).isSome then [] else tour graph a

/-- How many steps the nodes take that were not met. -/
def waiting (graph : Graph) (descent : Descent) : Nat := (graph.nodes.flatMap (ahead graph descent)).length

/-- How many steps are left to the nodes of a path. -/
def pending (graph : Graph) (frames : List (Nat × Nat)) : Nat :=
  (frames.flatMap fun frame => (tour graph frame.1).drop frame.2).length

/-- How many steps a descent can take. -/
def room (graph : Graph) (descent : Descent) : Nat := waiting graph descent + pending graph descent.frames

theorem length_tour (graph : Graph) (a : Nat) : (tour graph a).length = (graph.next a).length + 1 :=
  List.length_append

theorem pending_cons : pending graph ((node, cursor) :: outer) =
    (graph.next node).length + 1 - cursor + pending graph outer := by
  rw [pending, List.flatMap_cons, List.length_append, List.length_drop, length_tour, pending]

theorem ahead_of_met (h : descent.Met a) : ahead graph descent a = [] := if_pos (Option.isSome_iff_exists.2 h)

theorem ahead_of_not_met (h : ¬ descent.Met a) : ahead graph descent a = tour graph a :=
  if_neg fun hsome => h (Option.isSome_iff_exists.1 hsome)

theorem waiting_of_index (h : descent'.index = descent.index) :
    waiting graph descent' = waiting graph descent := by
  have : ahead graph descent' = ahead graph descent := funext fun a => by rw [ahead, ahead, h]
  rw [waiting, waiting, this]

theorem waiting_le_steps (graph : Graph) (descent : Descent) : waiting graph descent ≤ graph.steps := by
  refine (List.Sublist.flatMap_right _ fun a _ => ?_).length_le
  rw [ahead]
  split
  · exact List.nil_sublist _
  · exact List.Sublist.refl _

theorem ahead_enter_sublist (a : Nat) :
    (ahead graph (descent.enter node) a).Sublist (ahead graph descent a) := by
  by_cases hmet : (descent.enter node).Met a
  · rw [ahead_of_met hmet]
    exact List.nil_sublist _
  · rw [ahead_of_not_met hmet, ahead_of_not_met fun h => hmet (met_enter.2 (.inr h))]

/-- A node that is met waits no longer. -/
theorem waiting_enter (hnode : node ∈ graph.nodes) (hnew : ¬ descent.Met node) :
    waiting graph (descent.enter node) + (graph.next node).length + 1 ≤ waiting graph descent := by
  obtain ⟨before, after, hsplit⟩ := List.append_of_mem hnode
  have hothers : ∀ nodes : List Nat, (nodes.flatMap (ahead graph (descent.enter node))).length ≤
      (nodes.flatMap (ahead graph descent)).length :=
    fun nodes => (List.Sublist.flatMap_right _ fun a _ => ahead_enter_sublist a).length_le
  have hbefore := hothers before
  have hafter := hothers after
  rw [waiting, waiting, hsplit]
  simp only [List.flatMap_append, List.flatMap_cons, List.length_append, ahead_of_not_met hnew, length_tour,
    ahead_of_met (met_enter.2 (.inl rfl)), List.length_nil]
  omega

/-- Going along an edge keeps what holds, does not fail, and leaves less room. -/
theorem Valid.follow (h : Valid graph descent) (hframes : descent.frames = (node, cursor) :: outer)
    (hnext : (graph.next node)[cursor]? = some successor) (hnode : successor ∈ graph.nodes) :
    ∃ descent', (descent.advance node cursor outer).follow node successor = some descent' ∧
      Valid graph descent' ∧ room graph descent' < room graph descent ∧
      ∀ a, descent.Met a → descent'.Met a := by
  have hcursor := (List.getElem?_eq_some_iff.1 hnext).1
  have hroom : ∀ descent', descent'.index = descent.index → descent'.frames = (node, cursor + 1) :: outer →
      room graph descent' < room graph descent := by
    intro descent' hindex hframes'
    rw [room, room, hframes, hframes', waiting_of_index hindex]
    rw [pending_cons, pending_cons]
    omega
  have hpath := h.path
  rw [hframes] at hpath
  generalize hstack : descent.stack = stack at hpath
  cases hpath with
  | @cons _ _ _ above below hbelow hsegment hleads =>
    rw [Descent.follow]
    by_cases hmet : descent.Met successor
    · rw [show (descent.advance node cursor outer).index.lookup successor = _ from hmet.lookup]
      by_cases hmem : successor ∈ descent.stack
      · obtain ⟨hlower, hinv, hpath⟩ := h.follow_stack hstack hbelow hsegment hleads hnext hmem
        have hcontains : (descent.advance node cursor outer).onStack.contains successor = true :=
          List.contains_iff_mem.2 ((h.onStack successor).2 hmem)
        simp only [hcontains, if_true, hlower]
        exact ⟨_, rfl, ⟨hinv, hpath⟩, hroom _ rfl rfl, fun _ ha => ha⟩
      · have hpath := hbelow.follow_done hstack hsegment hleads hnext hmet hmem
        have hcontains : ¬ (descent.advance node cursor outer).onStack.contains successor = true :=
          fun hcontains => hmem ((h.onStack successor).1 (List.contains_iff_mem.1 hcontains))
        simp only [hcontains]
        exact ⟨_, rfl, ⟨h.withFrames _, hpath.keep (keeps_advance _)⟩, hroom _ rfl rfl, fun _ ha => ha⟩
    · have hnone : (descent.advance node cursor outer).index.lookup successor = none :=
        Option.eq_none_iff_forall_ne_some.2 fun found hfound => hmet ⟨found, hfound⟩
      have hadvanced : Inv graph (descent.advance node cursor outer) := h.withFrames _
      have hpath := h.follow_new hstack hbelow hsegment hleads hnext hmet
      have hwaiting : waiting graph ((descent.advance node cursor outer).enter successor) +
        (graph.next successor).length + 1 ≤ waiting graph descent := waiting_enter hnode hmet
      simp only [hnone]
      refine ⟨_, rfl, ⟨hadvanced.enter hnode hmet, hpath⟩, ?_, fun _ ha => met_enter.2 (.inr ha)⟩
      rw [room, room, hframes]
      show _ + pending graph ((successor, 0) :: (node, cursor + 1) :: outer) < _
      rw [pending_cons, pending_cons, pending_cons]
      omega

/-- Going back keeps what holds, does not fail, and leaves less room. -/
theorem Valid.leave (h : Valid graph descent) (hframes : descent.frames = (node, cursor) :: outer)
    (hdone : (graph.next node).length ≤ cursor) :
    ∃ descent', descent.leave node outer = some descent' ∧ Valid graph descent' ∧
      room graph descent' < room graph descent ∧ ∀ a, descent.Met a → descent'.Met a := by
  have hpath := h.path
  rw [hframes] at hpath
  obtain ⟨descent', hleave, hinv, hpath', hframes', hindex⟩ := h.toInv.leave hpath hdone
  refine ⟨descent', hleave, ⟨hinv, hframes' ▸ hpath'⟩, ?_, fun a ha => ?_⟩
  · rw [room, room, hframes, hframes', waiting_of_index hindex]
    have : cursor ≤ (graph.next node).length := hpath.cursor_le _ List.mem_cons_self
    rw [pending_cons]
    omega
  · rwa [Met, hindex]

/-- A step keeps what holds, does not fail, and leaves less room. -/
theorem Valid.step (h : Valid graph descent) (closed : graph.Closed) (hframes : descent.frames ≠ []) :
    ∃ descent', descent.step graph.next = some descent' ∧ Valid graph descent' ∧
      room graph descent' < room graph descent ∧ ∀ a, descent.Met a → descent'.Met a := by
  obtain ⟨⟨node, cursor⟩, outer, hcons⟩ := List.exists_cons_of_ne_nil hframes
  simp only [Descent.step, hcons]
  cases hnext : (graph.next node)[cursor]? with
  | none => exact h.leave hcons (List.getElem?_eq_none_iff.1 hnext)
  | some successor =>
    have hmem : node ∈ descent.stack := h.path.mem_stack _ (hcons ▸ List.mem_cons_self)
    have hnode : node ∈ graph.nodes := h.nodes node (h.met_of_mem hmem)
    exact h.follow hcons hnext (closed node hnode successor (List.mem_of_getElem? hnext))

/-! ### Runs -/

/-- A run with enough room ends, and keeps what holds. -/
theorem Valid.run (h : Valid graph descent) (closed : graph.Closed) {steps : Nat}
    (hroom : room graph descent ≤ steps) : ∃ descent', descent.run graph.next steps = some descent' ∧
      Valid graph descent' ∧ descent'.frames = [] ∧ ∀ a, descent.Met a → descent'.Met a := by
  induction steps generalizing descent with
  | zero =>
    have hframes : descent.frames = [] := by
      by_contra hframes
      obtain ⟨after, -, -, hless, -⟩ := h.step closed hframes
      omega
    exact ⟨descent, by rw [Descent.run, hframes]; rfl, h, hframes, fun _ ha => ha⟩
  | succ steps ih =>
    by_cases hframes : descent.frames = []
    · exact ⟨descent, by rw [Descent.run, hframes]; rfl, h, hframes, fun _ ha => ha⟩
    · obtain ⟨middle, hstep, hmiddle, hless, hmet⟩ := h.step closed hframes
      obtain ⟨last, hrun, hlast, hend, hmet'⟩ := ih hmiddle (by omega)
      refine ⟨last, ?_, hlast, hend, fun a ha => hmet' a (hmet a ha)⟩
      rw [Descent.run, if_neg (by simpa using hframes), hstep]
      exact hrun

/-- Going down from a node meets it and what it leads to, and comes to an end. -/
theorem Valid.descend (h : Valid graph descent) (closed : graph.Closed) (hframes : descent.frames = [])
    (hnode : node ∈ graph.nodes) : ∃ descent', graph.descend descent node = some descent' ∧
      Valid graph descent' ∧ descent'.frames = [] ∧ descent'.Met node ∧
      ∀ a, descent.Met a → descent'.Met a := by
  rw [Graph.descend]
  split
  · rename_i hmet
    exact ⟨descent, rfl, h, hframes, Option.isSome_iff_exists.1 hmet, fun _ ha => ha⟩
  · rename_i hnew
    have hnew : ¬ descent.Met node := fun hmet => hnew (Option.isSome_iff_exists.2 hmet)
    have hinv := h.enter hnode hnew
    have hstack : descent.stack = [] := h.path.stack_eq_nil hframes
    have hpath : Path graph (descent.enter node) [(node, 0)] [node] :=
      .cons .nil (.single (lowOf_enter_self.trans indexOf_enter_self.symm) []) nofun
    have hentered : Valid graph (descent.enter node) := by
      refine ⟨hinv, ?_⟩
      show Path graph (descent.enter node) ((node, 0) :: descent.frames) (node :: descent.stack)
      rwa [hframes, hstack]
    have hroom : room graph (descent.enter node) ≤ graph.steps := by
      refine Nat.le_trans ?_ (waiting_le_steps graph descent)
      rw [room]
      show _ + pending graph ((node, 0) :: descent.frames) ≤ _
      rw [hframes, pending_cons]
      exact waiting_enter hnode hnew
    obtain ⟨last, hrun, hlast, hend, hmet⟩ := hentered.run closed hroom
    exact ⟨last, hrun, hlast, hend, hmet node (met_enter.2 (.inl rfl)),
      fun a ha => hmet a (met_enter.2 (.inr ha))⟩

theorem valid_empty (graph : Graph) : Valid graph {} where
  index_lt := fun _ ⟨_, h⟩ => nomatch h
  nodes := fun _ ⟨_, h⟩ => nomatch h
  noted := nofun
  decreasing := .nil
  onStack := fun _ => .rfl
  met := fun a => by
    constructor
    · rintro ⟨_, h⟩
      cases h
    · rintro (h | ⟨_, h, -⟩) <;> cases h
  apart := nofun
  closed := fun _ ⟨_, h, _⟩ => nomatch h
  component := nofun
  ordered := .nil
  path := .nil

theorem Valid.foldlM (h : Valid graph descent) (closed : graph.Closed) (hframes : descent.frames = [])
    {nodes : List Nat} (hnodes : ∀ a ∈ nodes, a ∈ graph.nodes) :
    ∃ descent', nodes.foldlM graph.descend descent = some descent' ∧ Valid graph descent' ∧
      descent'.frames = [] ∧ (∀ a ∈ nodes, descent'.Met a) ∧ ∀ a, descent.Met a → descent'.Met a := by
  induction nodes generalizing descent with
  | nil => exact ⟨descent, rfl, h, hframes, nofun, fun _ ha => ha⟩
  | cons node nodes ih =>
    obtain ⟨hnode, hnodes⟩ := List.forall_mem_cons.1 hnodes
    obtain ⟨middle, hdescend, hmiddle, hend, hmet, hkept⟩ := h.descend closed hframes hnode
    obtain ⟨last, hfold, hlast, hend', hmet', hkept'⟩ := ih hmiddle hend hnodes
    refine ⟨last, ?_, hlast, hend', List.forall_mem_cons.2 ⟨hkept' node hmet, hmet'⟩,
      fun a ha => hkept' a (hkept a ha)⟩
    rw [List.foldlM_cons, hdescend]
    exact hfold

end Descent

namespace Graph

variable {graph : Graph}

/-- A descent from all nodes does not fail, and in the end each node is in a component. -/
theorem exists_descent (closed : graph.Closed) : ∃ descent, graph.descent? = some descent ∧
    descent.Inv graph ∧ ∀ a, a ∈ graph.nodes ↔ descent.Done a := by
  obtain ⟨descent, hfold, hvalid, hend, hmet, -⟩ :=
    (Descent.valid_empty graph).foldlM closed rfl fun a (ha : a ∈ graph.nodes) => ha
  refine ⟨descent, hfold, hvalid.toInv, fun a => ⟨fun ha => ?_, fun ha => ?_⟩⟩
  · rcases (hvalid.met a).1 (hmet a ha) with hstack | hdone
    · rw [hvalid.path.stack_eq_nil hend] at hstack
      cases hstack
    · exact hdone
  · exact hvalid.nodes a ((hvalid.met a).2 (.inr ha))

end Graph

end Formwork
