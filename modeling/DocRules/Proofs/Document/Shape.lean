import DocRules.Proofs.Entries
import DocRules.Proofs.Walk.Addressing
import DocRules.Proofs.Walk.Shape

/-! What the comparison of shapes tells. It goes through the keys of two mappings side by side, while
equality looks the keys of one up in the other. So documents of one shape have the same keys, lengths
and nesting, but the converse needs their keys to be in the same order, and equal documents with keys
in another order are not of one shape. -/

namespace DocRules

namespace Document

/-- Documents with the same keys, sequence lengths and nesting, whatever the order of the keys and the
values of the leaves. -/
inductive Alike : Document → Document → Prop where
  | leaf (left right : Value) : Alike (.leaf left) (.leaf right)
  | seq {left right : List Document} (hlength : left.length = right.length)
      (hitems : ∀ (position : Nat) (item other : Document),
        left[position]? = some item → right[position]? = some other → Alike item other) :
      Alike (.seq left) (.seq right)
  | map {left right : Entries Document}
      (hkeys : ∀ key, key ∈ Entries.keys left ↔ key ∈ Entries.keys right)
      (hvalues : ∀ key node other, (key, node) ∈ left → (key, other) ∈ right → Alike node other) :
      Alike (.map left) (.map right)

/-- Where both documents have a mapping, its keys are in the same order in both. -/
def InStep (left right : Document) : Prop :=
  ∀ steps entries others, ⟨steps, .map entries⟩ ∈ left.places →
    ⟨steps, .map others⟩ ∈ right.places → Entries.keys entries = Entries.keys others

/-- A relation holds between children that are under the same step. -/
def Matched (R : Document → Document → Prop) (left right : Document) : Prop :=
  ∀ step child other, (step, child) ∈ left.children → (step, other) ∈ right.children → R child other

/-- The children of two nodes are under the same steps, in whatever order. -/
def SameSteps (left right : Document) : Prop :=
  ∀ step, step ∈ Entries.keys left.children ↔ step ∈ Entries.keys right.children

variable {left right : Document} {R : Document → Document → Prop}

theorem exists_of_kind_eq (h : left.kind = right.kind) :
    (∃ value other, left = .leaf value ∧ right = .leaf other) ∨
      (∃ items others, left = .seq items ∧ right = .seq others) ∨
      ∃ entries others, left = .map entries ∧ right = .map others := by
  cases left <;> cases right <;> simp [kind] at h ⊢

theorem keys_numbered (first : Nat) (items : List Document) :
    Entries.keys (numbered first items) = (List.range' first items.length).map toString := by
  induction items generalizing first with
  | nil => rfl
  | cons item rest ih =>
      rw [numbered, Entries.keys_cons, ih, List.length_cons, List.range'_succ, List.map_cons]

theorem numbered_inj {first : Nat} {left right : List Document} :
    numbered first left = numbered first right ↔ left = right := by
  induction left generalizing first right with
  | nil => cases right <;> simp [numbered]
  | cons item rest ih => cases right <;> simp [numbered, ih]

theorem sameSteps_seq_iff {left right : List Document} :
    SameSteps (.seq left) (.seq right) ↔ left.length = right.length := by
  constructor
  · intro h
    have hperm := (List.perm_ext_iff_of_nodup (distinct_numbered 0 left)
      (distinct_numbered 0 right)).mpr h
    simpa [keys_numbered] using hperm.length_eq
  · intro h step
    rw [children, children, keys_numbered, keys_numbered, h]

theorem matched_seq_iff {left right : List Document} :
    Matched R (.seq left) (.seq right) ↔ ∀ (position : Nat) (item other : Document),
      left[position]? = some item → right[position]? = some other → R item other := by
  constructor
  · intro h position item other hitem hother
    exact h _ item other (mem_numbered_iff.mpr ⟨position, rfl, hitem⟩)
      (mem_numbered_iff.mpr ⟨position, rfl, hother⟩)
  · intro h step item other hitem hother
    obtain ⟨position, rfl, hleft⟩ := mem_numbered_iff.mp hitem
    obtain ⟨found, hstep, hright⟩ := mem_numbered_iff.mp hother
    have hposition : 0 + position = 0 + found := Path.toString_position_inj hstep
    obtain rfl : position = found := by omega
    exact h position item other hleft hright

theorem alike_iff :
    left.Alike right ↔ left.kind = right.kind ∧ SameSteps left right ∧ Matched Alike left right := by
  constructor
  · intro h
    cases h with
    | leaf value other => exact ⟨rfl, fun _ => Iff.rfl, fun _ _ _ hchild => nomatch hchild⟩
    | seq hlength hitems =>
        exact ⟨rfl, sameSteps_seq_iff.mpr hlength, matched_seq_iff.mpr hitems⟩
    | map hkeys hvalues => exact ⟨rfl, hkeys, hvalues⟩
  · rintro ⟨hkind, hsteps, hmatched⟩
    obtain ⟨value, other, rfl, rfl⟩ | ⟨items, others, rfl, rfl⟩ | ⟨entries, others, rfl, rfl⟩ :=
      exists_of_kind_eq hkind
    · exact .leaf value other
    · exact .seq (sameSteps_seq_iff.mp hsteps) (matched_seq_iff.mp hmatched)
    · exact .map hsteps hmatched

theorem inStep_iff :
    left.InStep right ↔
      (∀ entries others, left = .map entries → right = .map others →
        Entries.keys entries = Entries.keys others) ∧ Matched InStep left right := by
  constructor
  · intro h
    constructor
    · rintro entries others rfl rfl
      exact h [] entries others (mem_places_nil_iff.mpr rfl) (mem_places_nil_iff.mpr rfl)
    · intro step child other hchild hother steps entries others hentries hothers
      exact h (step :: steps) entries others (mem_places_cons_iff.mpr ⟨child, hchild, hentries⟩)
        (mem_places_cons_iff.mpr ⟨other, hother, hothers⟩)
  · rintro ⟨hroot, hbelow⟩ steps entries others hentries hothers
    cases steps with
    | nil =>
        exact hroot entries others (mem_places_nil_iff.mp hentries).symm
          (mem_places_nil_iff.mp hothers).symm
    | cons step steps =>
        obtain ⟨child, hchild, hentries⟩ := mem_places_cons_iff.mp hentries
        obtain ⟨other, hother, hothers⟩ := mem_places_cons_iff.mp hothers
        exact hbelow step child other hchild hother steps entries others hentries hothers

theorem numbered_blankItems (first : Nat) (items : List Document) :
    numbered first (blankItems items) =
      (numbered first items).map fun child => (child.1, child.2.blank) := by
  induction items generalizing first with
  | nil => rfl
  | cons item rest ih => rw [blankItems, numbered, numbered, ih, List.map_cons]

theorem blankEntries_eq (entries : Entries Document) :
    blankEntries entries = entries.map fun child => (child.1, child.2.blank) := by
  induction entries with
  | nil => rfl
  | cons entry rest ih => rw [blankEntries, ih, List.map_cons]

theorem children_blank (document : Document) :
    document.blank.children = document.children.map fun child => (child.1, child.2.blank) := by
  cases document with
  | leaf value => rfl
  | seq items => exact numbered_blankItems 0 items
  | map entries => exact blankEntries_eq entries

theorem blank_eq_iff :
    left.blank = right.blank ↔
      left.kind = right.kind ∧ left.blank.children = right.blank.children := by
  cases left <;> cases right <;> simp [blank, kind, children, numbered_inj]

theorem sameShape_iff_children (h : left.WellFormed) :
    left.sameShape right = true ↔ left.kind = right.kind ∧
      Entries.keys left.children = Entries.keys right.children ∧
      Matched (fun child other => child.sameShape other = true) left right := by
  simp only [sameShape_iff_blank]
  rw [blank_eq_iff, children_blank, children_blank, Entries.map_eq_map_iff _ h.distinct_children]
  rfl

/-- The keys of two nodes of one kind with the same steps are in the same order unless the nodes are
mappings that have them in another one. -/
theorem SameSteps.keys_eq (h : SameSteps left right) (hkind : left.kind = right.kind)
    (hroot : ∀ entries others, left = .map entries → right = .map others →
      Entries.keys entries = Entries.keys others) :
    Entries.keys left.children = Entries.keys right.children := by
  obtain ⟨value, other, rfl, rfl⟩ | ⟨items, others, rfl, rfl⟩ | ⟨entries, others, rfl, rfl⟩ :=
    exists_of_kind_eq hkind
  · rfl
  · rw [children, children, keys_numbered, keys_numbered, sameSteps_seq_iff.mp h]
  · exact hroot entries others rfl rfl

theorem WellFormed.sameShape_iff (h : left.WellFormed) :
    left.sameShape right = true ↔ left.Alike right ∧ left.InStep right := by
  induction left using induction_on_children generalizing right with
  | step left ih =>
      have hbelow : ∀ {step child other}, (step, child) ∈ left.children →
          (child.sameShape other = true ↔ child.Alike other ∧ child.InStep other) :=
        fun hchild => ih _ hchild (h.of_mem_children hchild)
      rw [sameShape_iff_children h, alike_iff, inStep_iff]
      constructor
      · rintro ⟨hkind, hkeys, hmatched⟩
        refine ⟨⟨hkind, fun step => by rw [hkeys], ?_⟩, ?_, ?_⟩
        · exact fun step child other hchild hother =>
            ((hbelow hchild).mp (hmatched step child other hchild hother)).1
        · rintro entries others rfl rfl
          exact hkeys
        · exact fun step child other hchild hother =>
            ((hbelow hchild).mp (hmatched step child other hchild hother)).2
      · rintro ⟨⟨hkind, hsteps, halike⟩, hroot, hordered⟩
        refine ⟨hkind, hsteps.keys_eq hkind hroot, fun step child other hchild hother => ?_⟩
        exact (hbelow hchild).mpr ⟨halike step child other hchild hother,
          hordered step child other hchild hother⟩

theorem sameList_iff {left right : List Document} :
    sameList left right = true ↔ left.length = right.length ∧
      ∀ (position : Nat) (item other : Document),
        left[position]? = some item → right[position]? = some other → item.same other = true := by
  induction left generalizing right with
  | nil => cases right <;> simp [sameList]
  | cons item rest ih =>
      cases right with
      | nil => simp [sameList]
      | cons other others =>
          rw [sameList, Bool.and_eq_true, ih]
          constructor
          · rintro ⟨hfirst, hlength, hrest⟩
            refine ⟨congrArg (· + 1) hlength, fun position node found hnode hfound => ?_⟩
            cases position with
            | zero =>
                cases hnode
                cases hfound
                exact hfirst
            | succ position => exact hrest position node found hnode hfound
          · rintro ⟨hlength, h⟩
            exact ⟨h 0 item other rfl rfl, Nat.succ.inj hlength,
              fun position => h (position + 1)⟩

theorem within_iff {left right : Entries Document} :
    within left right = true ↔ ∀ pair ∈ left,
      ∃ other, right.lookup pair.1 = some other ∧ pair.2.same other = true := by
  refine Entries.compare_iff (fun _ => by rw [within]) fun key node rest right => ?_
  rw [within]
  cases right.lookup key <;> rfl

theorem kind_eq_of_same (hsame : left.same right = true) : left.kind = right.kind := by
  cases left <;> cases right <;> first | rfl | cases hsame

/-- The children of equal nodes are under the same steps and equal. -/
theorem WellFormed.children_of_same (h : left.WellFormed) (hsame : left.same right = true) :
    SameSteps left right ∧ Matched (fun child other => child.same other = true) left right := by
  obtain ⟨value, other, rfl, rfl⟩ | ⟨items, others, rfl, rfl⟩ | ⟨entries, others, rfl, rfl⟩ :=
    exists_of_kind_eq (kind_eq_of_same hsame)
  · exact ⟨fun _ => Iff.rfl, fun _ _ _ hchild => nomatch hchild⟩
  · obtain ⟨hlength, hitems⟩ := sameList_iff.mp hsame
    exact ⟨sameSteps_seq_iff.mpr hlength, matched_seq_iff.mpr hitems⟩
  · obtain ⟨hcount, hwithin⟩ := Bool.and_eq_true_iff.mp hsame
    have hlookup := within_iff.mp hwithin
    have hperm : (Entries.keys entries).Perm (Entries.keys others) :=
      Entries.perm_keys_of_lookup h.distinct_children (eq_of_beq hcount) fun pair hpair =>
        (hlookup pair hpair).imp fun _ => And.left
    -- The other mapping has no key twice either, so what is found under a key is what stands there.
    have hdistinct : Entries.Distinct others := hperm.nodup_iff.mp h.distinct_children
    refine ⟨fun key => hperm.mem_iff, fun key node other hnode hother => ?_⟩
    obtain ⟨found, hfound, hfoundSame⟩ := hlookup _ hnode
    rw [hdistinct.lookup_of_mem hother, Option.some.injEq] at hfound
    rw [hfound]
    exact hfoundSame

theorem WellFormed.alike_of_same (h : left.WellFormed) (hsame : left.same right = true) :
    left.Alike right := by
  induction left using induction_on_children generalizing right with
  | step left ih =>
      obtain ⟨hsteps, hmatched⟩ := h.children_of_same hsame
      refine alike_iff.mpr ⟨kind_eq_of_same hsame, hsteps, fun step child other hchild hother => ?_⟩
      exact ih _ hchild (h.of_mem_children hchild) (hmatched step child other hchild hother)

/-- **Shape and equality.** Two documents are of one shape exactly if they have the same keys, lengths
and nesting and their keys are in the same order; being of one shape is an equivalence. Equal
documents have the same keys, lengths and nesting, but are of one shape only if their keys are in the
same order. -/
theorem sameShape_iff_alike_inStep (h : left.WellFormed) :
    (left.sameShape right = true ↔ left.Alike right ∧ left.InStep right) ∧
      (Equivalence fun one other : Document => one.sameShape other = true) ∧
      (left.same right = true →
        left.Alike right ∧ (left.sameShape right = true ↔ left.InStep right)) := by
  refine ⟨h.sameShape_iff, sameShape_equivalence, fun hsame => ?_⟩
  have halike := h.alike_of_same hsame
  exact ⟨halike, h.sameShape_iff.trans (and_iff_right halike)⟩

/-- A name with a list of tags. -/
def tagged (name tag : Value) : Document :=
  .map [("name", .leaf name), ("tags", .seq [.leaf tag])]

theorem tagged_alike_inStep :
    (tagged (.string "a") (.int 1)).WellFormed ∧
      (tagged (.string "a") (.int 1)).Alike (tagged .null (.bool true)) ∧
      (tagged (.string "a") (.int 1)).InStep (tagged .null (.bool true)) := by
  have hformed : (tagged (.string "a") (.int 1)).WellFormed := by decide
  exact ⟨hformed, (sameShape_iff_alike_inStep hformed).1.mp rfl⟩

/-- Two keys without values. -/
def forwards : Document := .map [("a", .leaf .null), ("b", .leaf .null)]

def backwards : Document := .map [("b", .leaf .null), ("a", .leaf .null)]

/-- Equal documents need not be of one shape, and neither need documents with the same keys. -/
theorem backwards_not_sameShape :
    forwards.WellFormed ∧ backwards.WellFormed ∧ forwards.same backwards = true ∧
      forwards.Alike backwards ∧ forwards.sameShape backwards = false := by
  have hformed : forwards.WellFormed := by decide
  exact ⟨hformed, by decide, rfl, hformed.alike_of_same rfl, rfl⟩

end Document

end DocRules
