import Mathlib.Data.List.Basic
import MarkupAssist.Completion.Skeleton
import MarkupAssist.Proofs.LoadedCatalogue

/-!
# The tree behind a skeleton

A skeleton is laid out from a tree (`Expansion`) whose shape depends on how the
elements refer to each other. What the layout needs of the tree does not depend
on it:

* every node stands for a known element and carries its required attributes
  (`Expansion.Conforms`, `conforms_expand`), and the lines of the layout inherit
  this (`SkeletonLine.Conforms`, `conforms_lines`);
* the nodes are the instances of elements that a relation on tags lists without
  the tree (`Catalogue.Unfolds`, `unfolds_expand`), so the tab stops are for the
  required attributes of these (`names_lines`);
* the counter that the layout threads through the tree has, behind a tree, gone
  on by the number of its tab stops (`snd_layout`). So the tab stops of the
  lines, read from left to right, are numbered without a gap (`numbers_lines`).

Trees nest through lists, so a property of the layout is proved of the children
of a node first, one after the other, and then by the induction principle
`Expansion.induction`.
-/

namespace MarkupAssist

/-- To prove something of all trees, prove it of a tree from its children. -/
theorem Expansion.induction {motive : Expansion → Prop}
    (node : ∀ tag required children, (∀ child ∈ children, motive child) →
      motive (.node tag required children)) : ∀ e, motive e
  | .node tag required children =>
    node tag required children fun child _ => Expansion.induction node child
termination_by e => sizeOf e

/-! ### One level of a tree -/

namespace Catalogue

variable {catalogue : Catalogue} {path : List String} {tag : String} {element : Element}

theorem expand_of_unknown (hnone : catalogue.element? tag = none) :
    catalogue.expand path tag = .node tag [] [] := by
  rw [expand.eq_def]
  split
  · rfl
  · next hknown =>
    rw [hnone] at hknown
    cases hknown

theorem expand_of_known (hknown : catalogue.element? tag = some element) :
    catalogue.expand path tag = .node tag element.requiredNames
      (if tag ∈ path then [] else element.subtags.map (catalogue.expand (tag :: path))) := by
  rw [expand.eq_def]
  split
  · next hnone =>
    rw [hnone] at hknown
    cases hknown
  · next element' hknown' =>
    rw [hknown] at hknown'
    obtain rfl := Option.some.inj hknown'
    by_cases hmem : tag ∈ path
    · rw [dif_neg (by simpa using hmem), if_pos hmem]
    · rw [dif_pos (by simpa using hmem), if_neg hmem]

end Catalogue

/-! ### Nodes stand for elements -/

/-- Every node stands for an element of the catalogue and carries the names of
its required attributes. -/
inductive Expansion.Conforms (catalogue : Catalogue) : Expansion → Prop
  | node {tag : String} {element : Element} {children : List Expansion}
      (known : catalogue.element? tag = some element)
      (inside : ∀ child ∈ children, Conforms catalogue child) :
      Conforms catalogue (.node tag element.requiredNames children)

/-- Every reference between the elements of a catalogue leads to one of them. -/
def Catalogue.Closed (catalogue : Catalogue) : Prop :=
  ∀ e ∈ catalogue.elements, ∀ tag ∈ e.2.subtags, catalogue.isKnown tag = true

theorem Catalogue.conforms_expand {catalogue : Catalogue} (hclosed : catalogue.Closed)
    (path : List String) (tag : String) (htag : catalogue.isKnown tag = true) :
    (catalogue.expand path tag).Conforms catalogue := by
  -- a tag that is already on the path gets no children, so the expansion ends
  induction path, tag using expand.induct catalogue with
  | case1 path tag hnone =>
    obtain ⟨element, helement⟩ := isKnown_iff.mp htag
    rw [hnone] at helement
    cases helement
  | case2 path tag element hknown hfresh ih =>
    rw [expand_of_known hknown, if_neg (by simpa using hfresh)]
    refine .node hknown fun child hchild => ?_
    obtain ⟨subtag, hsubtag, rfl⟩ := List.mem_map.mp hchild
    exact ih subtag (hclosed (tag, element) (Entries.mem_of_get? hknown) subtag hsubtag)
  | case3 path tag element hknown hfresh =>
    rw [expand_of_known hknown, if_pos (by simpa using hfresh)]
    exact .node hknown fun child hchild => absurd hchild List.not_mem_nil

/-! ### The layout -/

namespace Expansion

/-- The number of tab stops in a tree. -/
def stopCount : Expansion → Nat
  | node _ required children =>
    required.length + (children.map stopCount).foldr (fun a n => a + n) 0

/-- The lines of a tree at a nesting depth, behind `used` other tab stops. -/
def lines (depth used : Nat) (e : Expansion) : List SkeletonLine :=
  (e.layout depth used).1

/-- The lines of the trees inside an element. -/
def childLines (depth used : Nat) (children : List Expansion) : List SkeletonLine :=
  (layoutAll depth used children).1

theorem snd_layoutAll {children : List Expansion}
    (h : ∀ child ∈ children, ∀ depth used, (layout depth used child).2 = used + child.stopCount)
    (depth used : Nat) :
    (layoutAll depth used children).2 =
      used + (children.map stopCount).foldr (fun a n => a + n) 0 := by
  induction children generalizing used with
  | nil => rfl
  | cons child children ih =>
    obtain ⟨hchild, hchildren⟩ := List.forall_mem_cons.mp h
    rw [layoutAll, ih hchildren, hchild, List.map_cons, List.foldr_cons, Nat.add_assoc]

/-- **The counter goes on by the tab stops of a tree.** -/
theorem snd_layout (e : Expansion) (depth used : Nat) :
    (e.layout depth used).2 = used + e.stopCount := by
  induction e using Expansion.induction generalizing depth used with
  | node tag required children ih =>
    cases children with
    | nil =>
      rw [layout, stopCount]
      rfl
    | cons child children => rw [layout, snd_layoutAll ih, stopCount, Nat.add_assoc]

theorem lines_leaf (tag : String) (required : List String) (depth used : Nat) :
    (node tag required []).lines depth used = [.whole depth tag (required.zipIdx (used + 1))] := by
  rw [lines, layout]

theorem lines_node (tag : String) (required : List String) (child : Expansion)
    (children : List Expansion) (depth used : Nat) :
    (node tag required (child :: children)).lines depth used =
      .opening depth tag (required.zipIdx (used + 1)) ::
        (childLines (depth + 1) (used + required.length) (child :: children) ++
          [.closing depth tag]) := by
  rw [lines, layout, childLines]

theorem childLines_nil (depth used : Nat) : childLines depth used [] = [] := by
  rw [childLines, layoutAll]

/-- A tree counts on behind the one before it. -/
theorem childLines_cons (child : Expansion) (children : List Expansion) (depth used : Nat) :
    childLines depth used (child :: children) =
      child.lines depth used ++ childLines depth (used + child.stopCount) children := by
  rw [childLines, layoutAll, snd_layout, lines, childLines]

end Expansion

/-! ### Lines -/

/-- An element in a skeleton, with the tab stops of its opening tag. -/
structure TagInstance where
  tag : String
  stops : List (String × Nat)

namespace SkeletonLine

/-- The tab stops on a line. -/
def stops : SkeletonLine → List (String × Nat)
  | opening _ _ stops => stops
  | closing _ _ => []
  | whole _ _ stops => stops

/-- The instance that starts on a line, if one does. -/
def instances : SkeletonLine → List TagInstance
  | opening _ tag stops => [⟨tag, stops⟩]
  | closing _ _ => []
  | whole _ tag stops => [⟨tag, stops⟩]

theorem stops_instances (line : SkeletonLine) : line.instances.flatMap (·.stops) = line.stops := by
  cases line <;> simp [instances, stops]

/-- A line is about a known element; if it opens its tag, its tab stops are for
the required attributes, in order. -/
inductive Conforms (catalogue : Catalogue) : SkeletonLine → Prop
  | opening {depth : Nat} {tag : String} {stops : List (String × Nat)} {element : Element}
      (known : catalogue.element? tag = some element)
      (complete : stops.map Prod.fst = element.requiredNames) :
      Conforms catalogue (.opening depth tag stops)
  | closing {depth : Nat} {tag : String} {element : Element}
      (known : catalogue.element? tag = some element) : Conforms catalogue (.closing depth tag)
  | whole {depth : Nat} {tag : String} {stops : List (String × Nat)} {element : Element}
      (known : catalogue.element? tag = some element)
      (complete : stops.map Prod.fst = element.requiredNames) :
      Conforms catalogue (.whole depth tag stops)

end SkeletonLine

namespace Expansion

theorem conforms_childLines {catalogue : Catalogue} {children : List Expansion}
    (h : ∀ child ∈ children, ∀ depth used, ∀ line ∈ child.lines depth used, line.Conforms catalogue)
    (depth used : Nat) : ∀ line ∈ childLines depth used children, line.Conforms catalogue := by
  induction children generalizing used with
  | nil =>
    intro line hline
    rw [childLines_nil] at hline
    cases hline
  | cons child children ih =>
    obtain ⟨hchild, hchildren⟩ := List.forall_mem_cons.mp h
    intro line hline
    rw [childLines_cons, List.mem_append] at hline
    rcases hline with hline | hline
    · exact hchild depth used line hline
    · exact ih hchildren _ line hline

theorem conforms_lines {catalogue : Catalogue} {e : Expansion} (he : e.Conforms catalogue)
    (depth used : Nat) : ∀ line ∈ e.lines depth used, line.Conforms catalogue := by
  induction he generalizing depth used with
  | @node tag element children known inside ih =>
    intro line hline
    cases children with
    | nil =>
      rw [lines_leaf, List.mem_singleton] at hline
      rw [hline]
      exact .whole known (List.zipIdx_map_fst _ _)
    | cons child children =>
      rw [lines_node, List.mem_cons, List.mem_append, List.mem_singleton] at hline
      rcases hline with rfl | hline | rfl
      · exact .opening known (List.zipIdx_map_fst _ _)
      · exact conforms_childLines ih _ _ line hline
      · exact .closing known

/-! ### Numbers -/

/-- The numbers of the tab stops of some lines, from left to right. -/
def numbers (lines : List SkeletonLine) : List Nat :=
  (lines.flatMap SkeletonLine.stops).map Prod.snd

theorem numbers_cons (line : SkeletonLine) (lines : List SkeletonLine) :
    numbers (line :: lines) = line.stops.map Prod.snd ++ numbers lines := by
  simp [numbers]

theorem numbers_append (front rest : List SkeletonLine) :
    numbers (front ++ rest) = numbers front ++ numbers rest := by
  simp [numbers]

theorem numbers_childLines {children : List Expansion}
    (h : ∀ child ∈ children, ∀ depth used,
      numbers (child.lines depth used) = List.range' (used + 1) child.stopCount)
    (depth used : Nat) :
    numbers (childLines depth used children) =
      List.range' (used + 1) ((children.map stopCount).foldr (fun a n => a + n) 0) := by
  induction children generalizing used with
  | nil =>
    rw [childLines_nil]
    rfl
  | cons child children ih =>
    obtain ⟨hchild, hchildren⟩ := List.forall_mem_cons.mp h
    rw [childLines_cons, numbers_append, hchild, ih hchildren, List.map_cons, List.foldr_cons,
      ← List.range'_append_1]
    -- a child starts to count where its elder siblings stopped
    congr 2
    omega

/-- **Tab stops are numbered without a gap.** -/
theorem numbers_lines (e : Expansion) (depth used : Nat) :
    numbers (e.lines depth used) = List.range' (used + 1) e.stopCount := by
  induction e using Expansion.induction generalizing depth used with
  | node tag required children ih =>
    cases children with
    | nil =>
      rw [lines_leaf, numbers_cons, stopCount]
      simp [numbers, SkeletonLine.stops]
    | cons child children =>
      rw [lines_node, numbers_cons, numbers_append, numbers_childLines ih, stopCount,
        ← List.range'_append_1]
      simp only [SkeletonLine.stops, List.zipIdx_map_snd, numbers, List.flatMap_cons,
        List.flatMap_nil, List.append_nil, List.map_nil]
      congr 2
      omega

end Expansion

/-! ### Instances of elements -/

namespace Catalogue

/-- The tags of the instances in the expansion of some tags below a path, in the order in which
they are met. A known tag that is not on the path is met first and its subtags next, with the tag
on their path; any other tag is met alone. -/
inductive Unfolds (catalogue : Catalogue) : List String → List String → List String → Prop
  | nil {path : List String} : Unfolds catalogue path [] []
  | expanded {path tags inside behind : List String} {tag : String} {element : Element}
      (known : catalogue.element? tag = some element) (fresh : tag ∉ path)
      (below : Unfolds catalogue (tag :: path) element.subtags inside)
      (next : Unfolds catalogue path tags behind) :
      Unfolds catalogue path (tag :: tags) (tag :: (inside ++ behind))
  | alone {path tags behind : List String} {tag : String}
      (leaf : catalogue.element? tag = none ∨ tag ∈ path)
      (next : Unfolds catalogue path tags behind) :
      Unfolds catalogue path (tag :: tags) (tag :: behind)

/-- The names of the attributes that a tag requires, in the order of their declaration. -/
def requiredNames (catalogue : Catalogue) (tag : String) : List String :=
  (catalogue.element? tag).elim [] Element.requiredNames

variable {catalogue : Catalogue}

theorem requiredNames_of_known {tag : String} {element : Element}
    (hknown : catalogue.element? tag = some element) :
    catalogue.requiredNames tag = element.requiredNames := by
  rw [requiredNames, hknown, Option.elim_some]

theorem Unfolds.append {path tags more inside behind : List String}
    (h : Unfolds catalogue path tags inside) (hmore : Unfolds catalogue path more behind) :
    Unfolds catalogue path (tags ++ more) (inside ++ behind) := by
  induction h with
  | nil => exact hmore
  | expanded known fresh below _ _ ih =>
    rw [List.cons_append, List.cons_append, List.append_assoc]
    exact .expanded known fresh below (ih hmore)
  | alone leaf _ ih => exact .alone leaf (ih hmore)

/-- The expansion of some tags has one list of instances. -/
theorem Unfolds.unique {path tags instances others : List String}
    (h : Unfolds catalogue path tags instances) (hothers : Unfolds catalogue path tags others) :
    instances = others := by
  -- the catalogue and the path decide whether a tag is expanded, so two derivations never part
  induction h generalizing others with
  | nil =>
    cases hothers
    rfl
  | expanded known fresh _ _ ihbelow ihnext =>
    cases hothers with
    | expanded known' _ below' next' =>
      rw [known] at known'
      obtain rfl := Option.some.inj known'
      rw [ihbelow below', ihnext next']
    | alone leaf' _ =>
      rcases leaf' with hnone | hmem
      · rw [hnone] at known
        cases known
      · exact absurd hmem fresh
  | alone leaf _ ih =>
    cases hothers with
    | expanded known' fresh' _ _ =>
      rcases leaf with hnone | hmem
      · rw [hnone] at known'
        cases known'
      · exact absurd hmem fresh'
    | alone _ next' => rw [ih next']

/-- The tags of the instances on some lines. -/
def instanceTags (lines : List SkeletonLine) : List String :=
  (lines.flatMap SkeletonLine.instances).map (·.tag)

theorem instanceTags_append (front rest : List SkeletonLine) :
    instanceTags (front ++ rest) = instanceTags front ++ instanceTags rest := by
  simp [instanceTags]

/-- The instance of a node stands in front of those inside it. -/
theorem instanceTags_lines (tag : String) (required : List String) (children : List Expansion)
    (depth used : Nat) :
    instanceTags ((Expansion.node tag required children).lines depth used) =
      tag :: instanceTags
        (Expansion.childLines (depth + 1) (used + required.length) children) := by
  cases children with
  | nil =>
    rw [Expansion.lines_leaf, Expansion.childLines_nil]
    rfl
  | cons child children =>
    rw [Expansion.lines_node, ← List.singleton_append, instanceTags_append, instanceTags_append]
    simp [instanceTags, SkeletonLine.instances]

theorem unfolds_childLines {path : List String} {tree : String → Expansion}
    (htree : ∀ tag depth used,
      Unfolds catalogue path [tag] (instanceTags ((tree tag).lines depth used)))
    (tags : List String) (depth used : Nat) :
    Unfolds catalogue path tags
      (instanceTags (Expansion.childLines depth used (tags.map tree))) := by
  induction tags generalizing used with
  | nil =>
    rw [List.map_nil, Expansion.childLines_nil]
    exact .nil
  | cons tag tags ih =>
    rw [List.map_cons, Expansion.childLines_cons, instanceTags_append]
    exact (htree tag depth used).append (ih _)

/-- **The lines of a tag are about the instances in its expansion.** -/
theorem unfolds_expand (path : List String) (tag : String) (depth used : Nat) :
    Unfolds catalogue path [tag] (instanceTags ((catalogue.expand path tag).lines depth used)) := by
  -- the expansion ends because the path grows; its own induction has a case for each kind of leaf
  induction path, tag using Catalogue.expand.induct catalogue generalizing depth used with
  | case1 path tag hnone =>
    rw [expand_of_unknown hnone, instanceTags_lines]
    exact .alone (.inl hnone) .nil
  | case2 path tag element hknown hfresh ih =>
    have hnotMem : tag ∉ path := by simpa using hfresh
    rw [expand_of_known hknown, if_neg hnotMem, instanceTags_lines]
    have hbelow := unfolds_childLines ih element.subtags (depth + 1)
      (used + element.requiredNames.length)
    simpa using Unfolds.expanded hknown hnotMem hbelow .nil
  | case3 path tag element hknown hfresh =>
    have hmem : tag ∈ path := by simpa using hfresh
    rw [expand_of_known hknown, if_pos hmem, instanceTags_lines]
    exact .alone (.inr hmem) .nil

/-- The tab stops of lines are for the attributes that their instances require. -/
theorem names_lines {lines : List SkeletonLine}
    (hlines : ∀ line ∈ lines, line.Conforms catalogue) :
    (lines.flatMap SkeletonLine.stops).map Prod.fst =
      (instanceTags lines).flatMap catalogue.requiredNames := by
  induction lines with
  | nil => rfl
  | cons line lines ih =>
    obtain ⟨hline, hlines⟩ := List.forall_mem_cons.mp hlines
    rw [List.flatMap_cons, List.map_append, ih hlines, ← List.singleton_append,
      instanceTags_append, List.flatMap_append]
    congr 1
    cases hline with
    | opening known complete =>
      rw [← requiredNames_of_known known] at complete
      simpa [SkeletonLine.stops, instanceTags, SkeletonLine.instances] using complete
    | closing known => rfl
    | whole known complete =>
      rw [← requiredNames_of_known known] at complete
      simpa [SkeletonLine.stops, instanceTags, SkeletonLine.instances] using complete

end Catalogue

end MarkupAssist
