import DocRules.Proofs.Fields.Reordering
import DocRules.Proofs.Steps

/-! Collections of field rules in another spelling. A nested collection may be written out: each of
its entries in place, at the dotted path that leads there. A group may be entered again and again, so
entering it once for all entries of the nested collection and once for each of them makes the same
tree. What may differ is the path that an error names. -/

namespace DocRules

open Steps

/-- The entries of a nested collection, written out below the path of the collection. -/
def Fields.writtenOut (path : String) (inner : Fields) : Fields :=
  inner.map fun entry => (path ++ "." ++ entry.1, entry.2)

/-- Collections of which the second has nested collections of the first written out in place, at any
levels of nesting. An empty collection cannot be written out, for it registers its group. -/
inductive Fields.Respelled : Fields → Fields → Prop where
  | writeOut (before : Fields) (path : String) {inner : Fields} (after : Fields) (h : inner ≠ []) :
      Respelled (before ++ (path, .nested inner) :: after)
        (before ++ (writtenOut path inner ++ after))
  | nested (before : Fields) (path : String) {inner other : Fields} (after : Fields)
      (h : Respelled inner other) :
      Respelled (before ++ (path, .nested inner) :: after)
        (before ++ (path, .nested other) :: after)
  | trans {first second third : Fields} (left : Respelled first second)
      (right : Respelled second third) : Respelled first third

namespace FieldTree

variable {work other : Entries FieldTree → Except ResolveError (Entries FieldTree)}

/-- The group that further segments lead to is reached in two stages. -/
theorem workAt_append (path : String) (first second : List String) (children : Entries FieldTree) :
    workAt path work (first ++ second) children =
      workAt path (workAt path work second) first children := by
  induction first generalizing children with
  | nil => rfl
  | cons segment rest ih =>
      rw [List.cons_append]
      cases hchild : (children.lookup segment).getD empty with
      | field predicate => rw [workAt_field hchild, workAt_field hchild]
      | group inner => rw [workAt_group hchild, workAt_group hchild, ih]

/-- Doing two things to a group is doing the one and coming back for the other. -/
theorem workAt_bind (path : String) (segments : List String) (children : Entries FieldTree) :
    workAt path (fun inner => work inner >>= other) segments children =
      workAt path work segments children >>= workAt path other segments := by
  induction segments generalizing children with
  | nil => rfl
  | cons segment rest ih =>
      cases hchild : (children.lookup segment).getD empty with
      | field predicate =>
          rw [workAt_field hchild, workAt_field hchild]
          rfl
      | group inner =>
          rw [workAt_group hchild, workAt_group hchild, ih, map_bind, bind_map_left]
          congr 1
          funext grown
          have hgrown : ((children.put segment (.group grown)).lookup segment).getD empty =
              .group grown := by
            rw [Entries.lookup_put_self, Option.getD_some]
          rw [workAt_group hgrown]
          simp only [Entries.put_put]

/-- What work on a group answers does not depend on the path that errors name. -/
theorem toOption_workAt (h : ∀ inner, (work inner).toOption = (other inner).toOption)
    (path otherPath : String) (segments : List String) (children : Entries FieldTree) :
    (workAt path work segments children).toOption =
      (workAt otherPath other segments children).toOption := by
  induction segments generalizing children with
  | nil => exact h children
  | cons segment rest ih =>
      cases hchild : (children.lookup segment).getD empty with
      | field predicate =>
          rw [workAt_field hchild, workAt_field hchild]
          rfl
      | group inner =>
          rw [workAt_group hchild, workAt_group hchild, toOption_map, toOption_map, ih]

/-- Work that fails on every group fails at every place. -/
theorem toOption_workAt_of_fails (h : ∀ inner, (work inner).toOption = none) (path : String)
    (segments : List String) (children : Entries FieldTree) :
    (workAt path work segments children).toOption = none := by
  induction segments generalizing children with
  | nil => exact h children
  | cons segment rest ih =>
      cases hchild : (children.lookup segment).getD empty with
      | field predicate =>
          rw [workAt_field hchild]
          rfl
      | group inner =>
          rw [workAt_group hchild, toOption_map, ih]
          rfl

theorem toOption_addField (path otherPath key : String) (predicate : Predicate)
    (children : Entries FieldTree) :
    (addField path key predicate children).toOption =
      (addField otherPath key predicate children).toOption := by
  rw [addField, addField]
  cases children.lookup key <;> rfl

end FieldTree

open FieldTree

mutual

/-- What adding a definition answers does not depend on the path that errors name. -/
theorem Definition.toOption_addTo (full other : String) (segments : List String)
    (definition : Definition) (children : Entries FieldTree) :
    (definition.addTo full segments children).toOption =
      (definition.addTo other segments children).toOption := by
  cases definition with
  | field source =>
      rw [Definition.addTo, Definition.addTo, toOption_bind, toOption_bind]
      congr 1
      funext predicate
      exact toOption_workAt (toOption_addField full other _ predicate) full other _ children
  | nested fields =>
      rw [Definition.addTo, Definition.addTo]
      exact toOption_workAt (Fields.toOption_addTo full other fields) full other segments children

theorem Fields.toOption_addTo (parent other : String) (fields : List (String × Definition))
    (children : Entries FieldTree) :
    (Fields.addTo parent fields children).toOption =
      (Fields.addTo other fields children).toOption := by
  cases fields with
  | nil => rfl
  | cons entry rest =>
      obtain ⟨path, definition⟩ := entry
      rw [Fields.addTo, Fields.addTo, toOption_bind, toOption_bind,
        Definition.toOption_addTo (Path.join parent path) (Path.join other path)]
      congr 1
      funext grown
      exact Fields.toOption_addTo parent other rest grown

end

/-- A definition further down is added to the group on the way to it. -/
theorem Definition.toOption_addTo_append (full : String) (above : List String)
    {segments : List String} (hne : segments ≠ []) (definition : Definition)
    (children : Entries FieldTree) :
    (definition.addTo full (above ++ segments) children).toOption =
      (workAt full (definition.addTo full segments) above children).toOption := by
  cases definition with
  | nested fields =>
      rw [addTo, workAt_append]
      rfl
  | field source =>
      cases hresolve : source.resolve with
      | error error =>
          have hfails : ∀ inner, (addTo full segments (.field source) inner).toOption = none := by
            intro inner
            rw [addTo, hresolve]
            rfl
          rw [toOption_workAt_of_fails hfails, addTo, hresolve]
          rfl
      | ok predicate =>
          have hadd : addTo full segments (.field source) =
              workAt full (addField full (segments.getLastD "") predicate) segments.dropLast := by
            funext inner
            rw [addTo, hresolve]
            rfl
          have hlast : (above ++ segments).getLastD "" = segments.getLastD "" := by
            rw [List.getLastD_eq_getLast?, List.getLastD_eq_getLast?, List.getLast?_append,
              List.getLast?_eq_some_getLast hne, Option.some_or]
          rw [hadd, ← workAt_append, addTo, hresolve, hlast, List.dropLast_append_of_ne_nil hne]
          rfl

theorem Fields.addTo_append (parent : String) (first second : Fields)
    (children : Entries FieldTree) :
    Fields.addTo parent (first ++ second) children =
      Fields.addTo parent first children >>= Fields.addTo parent second := by
  induction first generalizing children with
  | nil => rfl
  | cons entry rest ih =>
      obtain ⟨path, definition⟩ := entry
      simp only [List.cons_append, Fields.addTo, bind_assoc]
      congr 1
      funext grown
      exact ih grown

/-- An entry of a nested collection is added where its dotted path leads. -/
theorem Definition.toOption_addTo_dotted (full dotted path key : String) (definition : Definition)
    (children : Entries FieldTree) :
    (workAt full (definition.addTo (Path.join full key) (Path.segments key)) (Path.segments path)
        children).toOption =
      (definition.addTo dotted (Path.segments (path ++ "." ++ key)) children).toOption := by
  have hsegments : Path.segments (path ++ "." ++ key) = Path.segments path ++ Path.segments key :=
    Text.split_append '.' path key
  have hkey : Path.segments key ≠ [] := Text.split_ne_nil '.' key
  rw [hsegments, toOption_addTo_append dotted (Path.segments path) hkey]
  exact toOption_workAt (toOption_addTo _ _ _ definition) _ _ _ children

/-- Entering a group for all entries of a nested collection adds what entering it for each of them
adds. -/
theorem Fields.toOption_addTo_writtenOut (full parent path : String) {inner : Fields}
    (hne : inner ≠ []) (children : Entries FieldTree) :
    (workAt full (Fields.addTo full inner) (Path.segments path) children).toOption =
      (Fields.addTo parent (writtenOut path inner) children).toOption := by
  induction inner generalizing children with
  | nil => exact absurd rfl hne
  | cons entry rest ih =>
      obtain ⟨key, definition⟩ := entry
      have hwritten : writtenOut path ((key, definition) :: rest) =
          (path ++ "." ++ key, definition) :: writtenOut path rest := rfl
      rw [hwritten, Fields.addTo, toOption_bind, ← Definition.toOption_addTo_dotted full]
      by_cases hrest : rest = []
      · -- coming back for no further entries would still enter the group
        subst hrest
        have hadd : Fields.addTo full [(key, definition)] =
            definition.addTo (Path.join full key) (Path.segments key) := by
          funext group
          exact bind_pure _
        rw [hadd]
        exact (Option.bind_fun_some _).symm
      · have hadd : Fields.addTo full ((key, definition) :: rest) = fun group =>
            definition.addTo (Path.join full key) (Path.segments key) group >>=
              Fields.addTo full rest := by
          funext group
          rw [Fields.addTo]
        rw [hadd, workAt_bind, toOption_bind]
        congr 1
        funext grown
        exact ih hrest grown

theorem Fields.Respelled.toOption_addTo {left right : Fields} (h : Respelled left right)
    (parent : String) (children : Entries FieldTree) :
    (Fields.addTo parent left children).toOption = (Fields.addTo parent right children).toOption := by
  induction h generalizing parent children with
  | writeOut before path after hne =>
      rw [Fields.addTo_append, Fields.addTo_append, toOption_bind, toOption_bind]
      congr 1
      funext grown
      rw [Fields.addTo_append, Fields.addTo, Definition.addTo, toOption_bind, toOption_bind,
        ← toOption_addTo_writtenOut _ parent path hne]
  | nested before path after _ ih =>
      rw [Fields.addTo_append, Fields.addTo_append, toOption_bind, toOption_bind]
      congr 1
      funext grown
      rw [Fields.addTo, Fields.addTo, toOption_bind, toOption_bind]
      congr 1
      rw [Definition.addTo, Definition.addTo]
      exact toOption_workAt (ih _) _ _ _ grown
  | trans _ _ left right => exact (left parent children).trans (right parent children)

/-- A respelled collection resolves to the very same tree, or fails as well. -/
theorem Fields.Respelled.resolve_iff {left right : Fields} (h : Respelled left right)
    (tree : Predicate) : Fields.resolve left = .ok tree ↔ Fields.resolve right = .ok tree := by
  have hoption : ∀ fields, (Fields.resolve fields).toOption =
      (Fields.addTo "" fields []).toOption.map fun children => (group children).toPredicate :=
    fun fields => toOption_map _ (Fields.addTo "" fields [])
  rw [← toOption_eq_some_iff, hoption, h.toOption_addTo, ← hoption, toOption_eq_some_iff]

/-- **The order and the spelling of field rules.** A collection whose entries are reordered, at any
levels of nesting, resolves if the collection does, and then to a tree that is the same but for the
order of keys. A collection of which nested collections are written out at dotted paths resolves to
the very same tree, with the keys in the same order, or fails as well. -/
theorem Fields.resolve_presentation (fields : Fields) :
    (∀ other, fields.Reordered other →
      ((∃ tree, Fields.resolve fields = .ok tree) ↔ ∃ tree, Fields.resolve other = .ok tree) ∧
      (fields.WellFormed → ∀ tree found, Fields.resolve fields = .ok tree →
        Fields.resolve other = .ok found → tree.same found = true)) ∧
    ∀ other, fields.Respelled other →
      ∀ tree, Fields.resolve fields = .ok tree ↔ Fields.resolve other = .ok tree := by
  constructor
  · intro other h
    exact ⟨h.resolve_ok_iff, fun hwell _ _ => h.same hwell⟩
  · intro other h tree
    exact h.resolve_iff tree

/-- Rules for a name, in a collection of their own, and for an age. -/
def nameAndAge : Fields :=
  [("name", .nested [("first", .field (.rules ⟨[.named ⟨"required", []⟩]⟩)),
      ("last", .field (.predicate (.leaf .notBlank)))]),
    ("age", .field (.predicate (.leaf (.type .integer))))]

def ageAndName : Fields :=
  [("age", .field (.predicate (.leaf (.type .integer)))),
    ("name", .nested [("last", .field (.predicate (.leaf .notBlank))),
      ("first", .field (.rules ⟨[.named ⟨"required", []⟩]⟩))])]

def dottedNameAndAge : Fields :=
  [("name.first", .field (.rules ⟨[.named ⟨"required", []⟩]⟩)),
    ("name.last", .field (.predicate (.leaf .notBlank))),
    ("age", .field (.predicate (.leaf (.type .integer))))]

theorem nameAndAge_resolved :
    nameAndAge.WellFormed ∧ nameAndAge.Reordered ageAndName ∧
      nameAndAge.Respelled dottedNameAndAge ∧
      ∃ tree found, Fields.resolve nameAndAge = .ok tree ∧ Fields.resolve ageAndName = .ok found ∧
        tree.same found = true ∧ Fields.resolve dottedNameAndAge = .ok tree := by
  have hwell : nameAndAge.WellFormed := by
    intro registration hmem source hsource
    have hsources : source ∈ [Source.rules ⟨[.named ⟨"required", []⟩]⟩, .predicate (.leaf .notBlank),
        .predicate (.leaf (.type .integer))] :=
      List.mem_filterMap.mpr ⟨registration, hmem, hsource⟩
    simp only [List.mem_cons, List.not_mem_nil, or_false] at hsources
    rcases hsources with rfl | rfl | rfl
    · intro predicate hdirect
      simp at hdirect
    · exact .leaf .notBlank
    · exact .leaf (.type .integer)
  have horder : nameAndAge.Reordered ageAndName := by
    refine .trans (.entries (.swap _ _ _)) ?_
    exact .nested [_] "name" [] (.entries (.swap _ _ _))
  have hspelling : nameAndAge.Respelled dottedNameAndAge :=
    .writeOut [] "name" [_] (by simp)
  obtain ⟨hreordered, hrespelled⟩ := Fields.resolve_presentation nameAndAge
  obtain ⟨hresolves, hsame⟩ := hreordered ageAndName horder
  obtain ⟨tree, htree⟩ : ∃ tree, Fields.resolve nameAndAge = .ok tree := ⟨_, rfl⟩
  obtain ⟨found, hfound⟩ := hresolves.mp ⟨tree, htree⟩
  exact ⟨hwell, horder, hspelling, tree, found, htree, hfound, hsame hwell tree found htree hfound,
    (hrespelled dottedNameAndAge hspelling tree).mp htree⟩

end DocRules
