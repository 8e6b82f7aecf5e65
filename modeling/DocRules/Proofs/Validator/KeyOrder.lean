import DocRules.Proofs.Validator.Verdict
import DocRules.Proofs.Walk.KeyOrder

/-! Validation and the order of keys. Whether a document fits is said of its nodes one by one, and the
verdict on a leaf looks at its path and its value only. So reordering keys neither makes nor breaks a
report; it reorders the reported document in the same way, and the violations with it. Only the error
may be another one, for another node may come first. -/

namespace DocRules

namespace Validator

variable {validator : Validator} {left right : Document}

/-- A document fits with its keys in any order. -/
theorem fits_iff_of_reordered (h : left.Reordered right) :
    validator.Fits left ↔ validator.Fits right := by
  rw [fits_iff_passes, fits_iff_passes]
  exact forall_congr' fun event => imp_congr_left h.events_perm.mem_iff

/-- The document of a report has each leaf replaced by its verdict. -/
theorem document_reportOf (validator : Validator) (document : Document) :
    (validator.reportOf document).document = document.mapLeaves validator.verdict :=
  Document.refill_map_leaves validator.verdict document

theorem exists_report_iff_fits {document : Document} :
    (∃ report, validator.validate document = .ok report) ↔ validator.Fits document := by
  constructor
  · rintro ⟨report, hreport⟩
    exact (validate_ok_iff.mp hreport).1
  · intro hfits
    exact ⟨_, validate_of_fits hfits⟩

/-- **Validation and the order of keys.** Two documents that differ in the order of keys only have
both a report or both none. The reported documents again differ in the order of keys only, the
numbers of leaves are the same, and so are the violations up to their order. -/
theorem validate_reordered (validator : Validator) (h : left.Reordered right) :
    ((∃ report, validator.validate left = .ok report) ↔
      ∃ report, validator.validate right = .ok report) ∧
    ∀ report other, validator.validate left = .ok report → validator.validate right = .ok other →
      report.document.Reordered other.document ∧ report.leaves = other.leaves ∧
      report.violations.Perm other.violations := by
  constructor
  · rw [exists_report_iff_fits, exists_report_iff_fits]
    exact fits_iff_of_reordered h
  · intro report other hreport hother
    obtain ⟨-, rfl⟩ := validate_ok_iff.mp hreport
    obtain ⟨-, rfl⟩ := validate_ok_iff.mp hother
    rw [document_reportOf, document_reportOf]
    exact ⟨h.mapLeaves validator.verdict, h.leaves_perm.length_eq, h.leaves_perm.flatMap_right _⟩

/-- A validator of persons with a first name, a last name and an age. -/
def persons : Validator where
  rules := [
    ("name.first", ⟨.required (some (.leaf .notBlank)), none⟩),
    ("name.last", ⟨.required (some (.leaf .notBlank)), none⟩),
    ("age", ⟨.leaf (.type .integer), some Transformer.stringToInt⟩)]
  evaluator := Evaluator.strict
  options := .default

/-- A person without names. -/
def unnamed : Document :=
  .map [("name", .map [("first", .leaf (.string "")), ("last", .leaf (.string ""))]),
    ("age", .leaf (.string "42"))]

def unnamedBackwards : Document :=
  .map [("age", .leaf (.string "42")),
    ("name", .map [("last", .leaf (.string "")), ("first", .leaf (.string ""))])]

/-- The two blank names are found in the order of the keys. -/
theorem unnamed_reordered :
    unnamed.Reordered unnamedBackwards ∧
      ∃ report other, persons.validate unnamed = .ok report ∧
        persons.validate unnamedBackwards = .ok other ∧
        report.document.Reordered other.document ∧ other.leaves = 3 ∧
        report.violations.Perm other.violations ∧
        report.violations.map Violation.path = ["name.first", "name.last"] ∧
        other.violations.map Violation.path = ["name.last", "name.first"] := by
  have h : unnamed.Reordered unnamedBackwards := by
    refine .trans (.keys (.swap _ _ _)) ?_
    exact .entry [_] "name" [] (.keys (.swap _ _ _))
  obtain ⟨hreports, hreordered⟩ := validate_reordered persons h
  obtain ⟨report, hreport⟩ : ∃ report, persons.validate unnamed = .ok report := ⟨_, rfl⟩
  obtain ⟨other, hother⟩ := hreports.mp ⟨report, hreport⟩
  obtain ⟨hdocument, hleaves, hviolations⟩ := hreordered report other hreport hother
  refine ⟨h, report, other, hreport, hother, hdocument, ?_, hviolations, ?_, ?_⟩
  · cases hother
    rfl
  · cases hreport
    rfl
  · cases hother
    rfl

end Validator

end DocRules
