import DocRules.Proofs.Entries
import DocRules.Proofs.Walk.Addressing

/-! Placing nodes at dot-paths. What is placed is found again, and a path that turns off on the way
finds what it found before, unless the place where it turns off is a sequence that the segment placed
under does not lead into, or that both paths enter at one position. The nodes on the way keep what
they hold, and nothing is added, removed or moved outside the one node that is replaced or added. -/

namespace DocRules

/-- What is seen of a place without looking below it. -/
def Place.label (place : Place) : List String × NodeKind × Option Value :=
  (place.steps, place.node.kind, place.node.value?)

/-- Whether a place is neither at the given steps nor behind them. -/
def Place.isOutside (start : List String) (place : Place) : Bool := ¬start <+: place.steps

namespace Document

/-- Whether a segment leads into a node when something is placed: any key leads into a mapping, and a
position up to the length leads into a sequence. -/
def enters (document : Document) (segment : String) : Bool :=
  match document with
  | .leaf _ => false
  | .seq items => (Path.index? segment).any (· ≤ items.length)
  | .map _ => true

/-- The steps to the node that placing at the end of a list of segments replaces or adds. It is the
first on the way that the next segment does not lead into, or else that is missing, or else the last. -/
def landing (document : Document) (segments : List String) : List String :=
  match segments with
  | [] => []
  | segment :: rest =>
      if document.enters segment then
        document.canonicalStep segment ::
          match document.child? segment with
          | some child => child.landing rest
          | none => []
      else []

/-- The labels of the places outside the given steps, in preorder. -/
def labelsOutside (start : List String) (document : Document) :
    List (List String × NodeKind × Option Value) :=
  (document.places.filter (Place.isOutside start)).map Place.label

variable {document : Document} {segment other : String} {rest : List String}

theorem toString_ne_later (first offset : Nat) :
    (toString first : String) ≠ toString (first + (offset + 1)) := by
  intro h
  have hposition := Path.toString_position_inj h
  omega

section Items

variable {items : List Document} {position : Nat} (h : position ≤ items.length) (item : Document)
include h

theorem length_placed : (items.take position ++ item :: items.drop (position + 1)).length =
    if position < items.length then items.length else items.length + 1 := by
  rw [List.length_append, List.length_take, List.length_cons, List.length_drop]
  split_ifs <;> omega

theorem getElem?_placed_self :
    (items.take position ++ item :: items.drop (position + 1))[position]? = some item := by
  have hlength : (items.take position).length = position := List.length_take_of_le h
  rw [List.getElem?_append_right (Nat.le_of_eq hlength), hlength, Nat.sub_self,
    List.getElem?_cons_zero]

theorem getElem?_placed_of_ne {asked : Nat} (hne : asked ≠ position) :
    (items.take position ++ item :: items.drop (position + 1))[asked]? = items[asked]? := by
  have hlength : (items.take position).length = position := List.length_take_of_le h
  rcases Nat.lt_or_gt_of_ne hne with hbefore | hafter
  · rw [List.getElem?_append_left (hlength.symm ▸ hbefore), List.getElem?_take_of_lt hbefore]
  · obtain ⟨offset, rfl⟩ := Nat.exists_eq_add_of_lt hafter
    have hoffset : position + offset + 1 - position = offset + 1 := by omega
    rw [List.getElem?_append_right (by omega), hlength, hoffset, List.getElem?_cons_succ,
      List.getElem?_drop, Nat.add_right_comm]

/-- An item that is placed in a sequence is put under the decimal of its position. -/
theorem numbered_placed (first : Nat) :
    numbered first (items.take position ++ item :: items.drop (position + 1)) =
      Entries.put (numbered first items) (toString (first + position)) item := by
  induction items generalizing first position with
  | nil =>
      obtain rfl : position = 0 := Nat.le_zero.mp h
      rfl
  | cons head tail ih =>
      cases position with
      | zero => simp [numbered, Entries.put]
      | succ position =>
          have hnext : first + 1 + position = first + (position + 1) := by omega
          rw [List.take_succ_cons, List.drop_succ_cons, List.cons_append, numbered, numbered,
            ih (Nat.le_of_succ_le_succ h), hnext, Entries.put,
            if_neg (toString_ne_later first position)]

end Items

theorem lookup_numbered (first offset : Nat) (items : List Document) :
    (numbered first items).lookup (toString (first + offset)) = items[offset]? := by
  induction items generalizing first offset with
  | nil => rfl
  | cons item tail ih =>
      cases offset with
      | zero => rw [numbered, Nat.add_zero, List.lookup_cons_self, List.getElem?_cons_zero]
      | succ offset =>
          have hnext : first + (offset + 1) = first + 1 + offset := by omega
          rw [numbered, List.lookup_cons, beq_false_of_ne (toString_ne_later first offset).symm,
            List.getElem?_cons_succ, hnext]
          exact ih (first + 1) offset

theorem enters_seq_iff {items : List Document} : (seq items).enters segment = true ↔
    ∃ position, Path.index? segment = some position ∧ position ≤ items.length := by
  rw [enters, Option.any_eq_true]
  simp

theorem setAt_seq {items : List Document} {position : Nat}
    (hindex : Path.index? segment = some position) (hposition : position ≤ items.length)
    (node : Document) :
    (seq items).setAt (segment :: rest) node = .seq (items.take position
      ++ setAt (items[position]?.getD empty) rest node :: items.drop (position + 1)) := by
  have hfilter : (Path.index? segment).filter (· ≤ items.length) = some position := by
    rw [hindex, Option.filter_some, if_pos (decide_eq_true hposition)]
  rw [setAt, hfilter]

theorem child?_seq {items : List Document} {position : Nat}
    (hindex : Path.index? segment = some position) :
    (seq items).child? segment = items[position]? := by
  rw [child?, hindex, Option.bind_some]

/-- A node that a segment does not lead into is replaced by a mapping. -/
theorem setAt_of_not_enters (h : document.enters segment = false) (node : Document) :
    document.setAt (segment :: rest) node = .map [(segment, empty.setAt rest node)] := by
  cases document with
  | leaf value => rfl
  | seq items =>
      have hfilter : (Path.index? segment).filter (· ≤ items.length) = none := by
        cases hindex : Path.index? segment with
        | none => rfl
        | some position =>
            rw [enters, hindex, Option.any_some] at h
            rw [Option.filter_some, h]
            rfl
      rw [setAt, hfilter]
  | map entries => cases h

theorem child?_of_not_enters (h : document.enters segment = false) :
    document.child? segment = none := by
  cases document with
  | leaf value => rfl
  | seq items =>
      cases hindex : Path.index? segment with
      | none => rw [child?, hindex, Option.bind_none]
      | some position =>
          have hlength : ¬position ≤ items.length := by
            rw [enters, hindex, Option.any_some] at h
            exact of_decide_eq_false h
          rw [child?_seq hindex]
          exact List.getElem?_eq_none (Nat.le_of_not_le hlength)
  | map entries => cases h

/-- What is found under the first segment after placing is what was there, or else an empty mapping,
with the node placed below it. -/
theorem child?_setAt_self (node : Document) : (document.setAt (segment :: rest) node).child? segment =
    some (((document.child? segment).getD empty).setAt rest node) := by
  cases henters : document.enters segment with
  | false =>
      rw [setAt_of_not_enters henters, child?_of_not_enters henters]
      exact List.lookup_cons_self
  | true =>
      cases document with
      | leaf value => cases henters
      | seq items =>
          obtain ⟨position, hindex, hposition⟩ := enters_seq_iff.mp henters
          rw [setAt_seq hindex hposition, child?_seq hindex, child?_seq hindex]
          exact getElem?_placed_self hposition _
      | map entries => exact Entries.lookup_put_self entries segment _

/-- Nothing is found under another segment where a node has been replaced by a mapping. -/
theorem child?_setAt_of_not_enters (h : document.enters segment = false) (hne : other ≠ segment)
    (node : Document) : (document.setAt (segment :: rest) node).child? other = none := by
  rw [setAt_of_not_enters h]
  exact Entries.lookup_put_of_ne [] _ hne

/-- What is found under another segment is what was there, where a sequence is entered at another
position. -/
theorem child?_setAt_of_ne (hne : other ≠ segment)
    (hseq : ∀ items, document = .seq items →
      (seq items).enters segment = true ∧ Path.index? other ≠ Path.index? segment) (node : Document) :
    (document.setAt (segment :: rest) node).child? other = document.child? other := by
  cases document with
  | leaf value => exact child?_setAt_of_not_enters rfl hne node
  | seq items =>
      obtain ⟨henters, hother⟩ := hseq items rfl
      obtain ⟨position, hindex, hposition⟩ := enters_seq_iff.mp henters
      rw [setAt_seq hindex hposition]
      cases hasked : Path.index? other with
      | none => rw [child?, child?, hasked, Option.bind_none, Option.bind_none]
      | some asked =>
          have hdistinct : asked ≠ position := by
            rintro rfl
            exact hother (hasked.trans hindex.symm)
          rw [child?_seq hasked, child?_seq hasked]
          exact getElem?_placed_of_ne hposition _ hdistinct
  | map entries => exact Entries.lookup_put_of_ne entries _ hne

/-- Each node on the way is after placing what it was, or else an empty mapping, with the node placed
below it. -/
theorem follow_setAt (document : Document) (common rest : List String) (node : Document) :
    (document.setAt (common ++ rest) node).follow common =
      some (((document.follow common).getD empty).setAt rest node) := by
  induction common generalizing document with
  | nil => rfl
  | cons segment common ih =>
      rw [List.cons_append, follow, child?_setAt_self, Option.bind_some, ih, follow]
      -- A missing child counts as an empty mapping, in which no segment finds anything either.
      cases document.child? segment with
      | some child => rfl
      | none => cases common <;> rfl

theorem canonicalStep_seq {items : List Document} {position : Nat}
    (hindex : Path.index? segment = some position) :
    (seq items).canonicalStep segment = toString position := by
  rw [canonicalStep, hindex]
  rfl

theorem children_setAt (h : document.enters segment = true) (node : Document) :
    (document.setAt (segment :: rest) node).children =
      Entries.put document.children (document.canonicalStep segment)
        (((document.child? segment).getD empty).setAt rest node) := by
  cases document with
  | leaf value => cases h
  | seq items =>
      obtain ⟨position, hindex, hposition⟩ := enters_seq_iff.mp h
      have hput := numbered_placed hposition ((items[position]?.getD empty).setAt rest node) 0
      rw [Nat.zero_add] at hput
      rw [setAt_seq hindex hposition, child?_seq hindex, canonicalStep_seq hindex]
      exact hput
  | map entries => rfl

theorem lookup_children (h : document.enters segment = true) :
    document.children.lookup (document.canonicalStep segment) = document.child? segment := by
  cases document with
  | leaf value => cases h
  | seq items =>
      obtain ⟨position, hindex, -⟩ := enters_seq_iff.mp h
      have hlookup := lookup_numbered 0 position items
      rw [Nat.zero_add] at hlookup
      rw [child?_seq hindex, canonicalStep_seq hindex]
      exact hlookup
  | map entries => rfl

/-- A node that a segment leads into keeps its label. -/
theorem label_setAt (h : document.enters segment = true) (steps : List String) (node : Document) :
    Place.label ⟨steps, document.setAt (segment :: rest) node⟩ = Place.label ⟨steps, document⟩ := by
  cases document with
  | leaf value => cases h
  | seq items =>
      obtain ⟨position, hindex, hposition⟩ := enters_seq_iff.mp h
      rw [setAt_seq hindex hposition]
      rfl
  | map entries => rfl

theorem labelsOutside_nil (document : Document) : document.labelsOutside [] = [] := by
  rw [labelsOutside, List.filter_eq_nil_iff.mpr, List.map_nil]
  simp [Place.isOutside]

/-- The labels of a child and of what is below it, without those behind the given steps. -/
def childLabels (start : List String) (child : String × Document) :
    List (List String × NodeKind × Option Value) :=
  ((child.2.places.map (Place.below child.1)).filter (Place.isOutside start)).map Place.label

theorem labelsOutside_cons (step : String) (start : List String) (document : Document) :
    document.labelsOutside (step :: start) =
      Place.label ⟨[], document⟩ :: document.children.flatMap (childLabels (step :: start)) := by
  have hroot : Place.isOutside (step :: start) ⟨[], document⟩ = true := by simp [Place.isOutside]
  rw [labelsOutside, places_eq, List.filter_cons_of_pos hroot, List.map_cons, List.filter_flatMap,
    List.map_flatMap]
  rfl

/-- Below the first of the given steps it is the others that count. -/
theorem childLabels_self (step : String) (start : List String) (document : Document) :
    childLabels (step :: start) (step, document) =
      (document.labelsOutside start).map fun label => (step :: label.1, label.2) := by
  have hbelow : Place.isOutside (step :: start) ∘ Place.below step = Place.isOutside start := by
    funext place
    simp [Place.isOutside, Place.below, List.cons_prefix_cons]
  rw [childLabels, labelsOutside, List.filter_map, hbelow, List.map_map, List.map_map]
  rfl

/-- Placing changes nothing outside the node that is replaced or added. -/
theorem labelsOutside_setAt (document : Document) (segments : List String) (node : Document) :
    (document.setAt segments node).labelsOutside (document.landing segments) =
      document.labelsOutside (document.landing segments) := by
  induction segments generalizing document with
  | nil => rw [landing, labelsOutside_nil, labelsOutside_nil]
  | cons segment rest ih =>
      cases henters : document.enters segment with
      | false => simp [landing, henters, labelsOutside_nil]
      | true =>
          rw [landing, henters, if_pos rfl, labelsOutside_cons, labelsOutside_cons,
            label_setAt henters, children_setAt henters]
          refine congrArg _ (Entries.flatMap_put ?_)
          rw [lookup_children henters]
          -- Only the entry under the segment changes, and what lies outside of it there is either
          -- nothing, if the entry is new, or what the rest of the segments leaves alone.
          cases document.child? segment with
          | none => rw [childLabels_self, labelsOutside_nil]; rfl
          | some child =>
            rw [Option.map_some, Option.getD_some, Option.getD_some, childLabels_self,
              childLabels_self, ih child]

/-- Where the segments lead to a node, that node is the one replaced. -/
theorem landing_of_follow {segments : List String} {found : Document}
    (h : document.follow segments = some found) :
    document.landing segments = document.canonicalSteps segments := by
  induction segments generalizing document with
  | nil => rfl
  | cons segment rest ih =>
      obtain ⟨child, hchild, hrest⟩ := Option.bind_eq_some_iff.mp h
      have henters : document.enters segment = true := by
        rw [← Bool.not_eq_false]
        intro hnot
        rw [child?_of_not_enters hnot] at hchild
        cases hchild
      rw [landing, if_pos henters, canonicalSteps, hchild]
      exact congrArg _ (ih hrest)

/-- What a node becomes when something is placed under a segment that leads into it. A mapping keeps
its keys and has the segment as one more at the end if it was not there; a sequence keeps its length
or has one more item at the end. Nothing else in it changes. -/
inductive Takes (segment : String) : Document → Document → Prop where
  | map {entries after : Entries Document}
      (hkeys : Entries.keys after = if segment ∈ Entries.keys entries then Entries.keys entries
        else Entries.keys entries ++ [segment])
      (hothers : ∀ key, key ≠ segment → after.lookup key = entries.lookup key) :
      Takes segment (.map entries) (.map after)
  | seq {items after : List Document} {position : Nat} (hindex : Path.index? segment = some position)
      (hlength : after.length = if position < items.length then items.length else items.length + 1)
      (hothers : ∀ asked, asked ≠ position → after[asked]? = items[asked]?) :
      Takes segment (.seq items) (.seq after)

theorem takes_setAt (h : document.enters segment = true) (node : Document) :
    Takes segment document (document.setAt (segment :: rest) node) := by
  cases document with
  | leaf value => cases h
  | seq items =>
      obtain ⟨position, hindex, hposition⟩ := enters_seq_iff.mp h
      rw [setAt_seq hindex hposition]
      exact .seq hindex (length_placed hposition _) fun _ hne => getElem?_placed_of_ne hposition _ hne
  | map entries =>
      exact .map (Entries.keys_put entries segment _) fun _ hne => Entries.lookup_put_of_ne entries _ hne

theorem get_of_ne_root {path : String} (h : path ≠ "") (document : Document) :
    document.get path = document.follow (Path.segments path) := by
  rw [get, Path.steps, if_neg h]

/-- **Placing a node at a path.** The node is found there. A path that goes on with another segment
after a common beginning finds what it found, except in a sequence: there both segments may name one
position, and if the first names no position up to the length, then a mapping with that one key
replaces the sequence and the other path finds nothing. A node on the way that is entered takes at
most one key or item more. Outside the node that is replaced or added, which is the one at the path if
there was one, the same nodes are at the same places in the same order. -/
theorem set_spec {path : String} (hpath : path ≠ "") (document node : Document) :
    (document.set path node).get path = some node ∧
      (∀ other common step rest stepOther restOther, other ≠ "" →
        Path.segments path = common ++ step :: rest →
        Path.segments other = common ++ stepOther :: restOther → stepOther ≠ step →
          ((∀ items, document.follow common = some (.seq items) →
              (seq items).enters step = true ∧ Path.index? stepOther ≠ Path.index? step) →
            (document.set path node).get other = document.get other) ∧
          ∀ items, document.follow common = some (.seq items) → (seq items).enters step = false →
            (∃ child, (document.set path node).follow common = some (.map [(step, child)])) ∧
              (document.set path node).get other = none) ∧
      (∀ common step rest reached, Path.segments path = common ++ step :: rest →
        document.follow common = some reached → reached.enters step = true →
          ∃ after, (document.set path node).follow common = some after ∧ Takes step reached after) ∧
      (document.set path node).labelsOutside (document.landing (Path.segments path)) =
        document.labelsOutside (document.landing (Path.segments path)) ∧
      ((document.get path).isSome = true →
        document.landing (Path.segments path) = document.canonicalSteps (Path.segments path)) := by
  have hfollow : ∀ common rest, Path.segments path = common ++ rest →
      (document.set path node).follow common =
        some (((document.follow common).getD empty).setAt rest node) := by
    intro common rest hsplit
    rw [set, hsplit]
    exact follow_setAt document common rest node
  refine ⟨?_, ?_, ?_, labelsOutside_setAt document (Path.segments path) node, ?_⟩
  · rw [get_of_ne_root hpath]
    exact hfollow (Path.segments path) [] (List.append_nil _).symm
  · intro other common step rest stepOther restOther hother hsplit hsplitOther hne
    have hreached := hfollow common (step :: rest) hsplit
    rw [get_of_ne_root hother, get_of_ne_root hother, hsplitOther, follow_append, follow_append,
      hreached, Option.bind_some, follow]
    refine ⟨fun hseq => ?_, fun items hitems henters => ?_⟩
    · rw [child?_setAt_of_ne hne]
      · cases document.follow common <;> rfl
      · intro items hitems
        refine hseq items ?_
        cases hcommon : document.follow common with
        | none =>
            rw [hcommon] at hitems
            cases hitems
        | some reached =>
            rw [hcommon] at hitems
            exact congrArg some hitems
    · rw [hitems, Option.getD_some, child?_setAt_of_not_enters henters hne, Option.bind_none]
      exact ⟨⟨_, congrArg some (setAt_of_not_enters henters node)⟩, rfl⟩
  · intro common step rest reached hsplit hreached henters
    refine ⟨_, hfollow common (step :: rest) hsplit, ?_⟩
    rw [hreached, Option.getD_some]
    exact takes_setAt henters node
  · intro hfound
    obtain ⟨found, hfound⟩ := Option.isSome_iff_exists.mp hfound
    rw [get_of_ne_root hpath] at hfound
    exact landing_of_follow hfound

/-- A third tag with a name is found, the first tag is what it was, and only what is at the third
place in the tags is new. -/
theorem sizesAndTags_third_tag :
    "tags.2.name" ≠ "" ∧
      (sizesAndTags.set "tags.2.name" (.leaf (.string "old"))).get "tags.2.name" =
        some (.leaf (.string "old")) ∧
      (sizesAndTags.set "tags.2.name" (.leaf (.string "old"))).get "tags.0" =
        sizesAndTags.get "tags.0" ∧
      sizesAndTags.landing (Path.segments "tags.2.name") = ["tags", "2"] ∧
      (sizesAndTags.set "tags.2.name" (.leaf (.string "old"))).labelsOutside ["tags", "2"] =
        sizesAndTags.labelsOutside ["tags", "2"] := by
  have hpath : "tags.2.name" ≠ "" := by decide
  have hlanding : sizesAndTags.landing (Path.segments "tags.2.name") = ["tags", "2"] := by decide
  obtain ⟨hfound, hother, -, houtside, -⟩ :=
    set_spec hpath sizesAndTags (.leaf (.string "old"))
  have hfirst := (hother "tags.0" ["tags"] "2" ["name"] "0" [] (by decide) (by decide) (by decide)
    (by decide)).1
  rw [hlanding] at houtside
  refine ⟨hpath, hfound, hfirst fun items hitems => ?_, hlanding, houtside⟩
  cases hitems
  decide

end Document

end DocRules
