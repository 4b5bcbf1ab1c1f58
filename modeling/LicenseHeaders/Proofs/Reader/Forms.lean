import LicenseHeaders.Proofs.Document.TomlForm
import LicenseHeaders.Proofs.Document.XmlForm
import LicenseHeaders.Proofs.Reader.Agreement
import LicenseHeaders.Sample

/-!
# The two forms of rules mean the same

Rules can be written as elements (`Written.Rules.WrittenAs`) or as tables
(`Written.Rules.TabulatedAs`). What is read of either agrees with the declarations of the rules, so
the two documents agree with each other, and documents that agree mean the same to every reader that
is given one of them among any others (`Document.MeansTheSame`). `Reader.forms_mean_the_same` puts
this together. It is about all rules that both forms can hold, since all rules can be written in
either (`Written.Rules.exists_writtenAs`, `Written.Rules.exists_tabulatedAs`).
-/

set_option autoImplicit false
set_option relaxedAutoImplicit false

namespace LicenseHeaders

open Text Toml Reader

/-- Two documents mean the same: wherever one of them is added to a reader the other one could be
added, and the reader would return the same licenses and approve the same categories, or would
refuse to return licenses all the same. -/
structure Document.MeansTheSame [Installation] (first second : Document) : Prop where
  licenses (catalogue : Catalogue) (kinds : KindTable) (before behind : List Document)
    (licenses : List License) :
    (loadDocuments catalogue kinds (before ++ first :: behind)).1 = .ok licenses ↔
      (loadDocuments catalogue kinds (before ++ second :: behind)).1 = .ok licenses
  approved (catalogue : Catalogue) (kinds : KindTable) (before behind : List Document)
    (licenses : List License)
    (hloaded : (loadDocuments catalogue kinds (before ++ first :: behind)).1 = .ok licenses) :
    ∃ categories reader other,
      Returns approvedCategories (loadDocuments catalogue kinds (before ++ first :: behind)).2
        categories reader ∧
      Returns approvedCategories (loadDocuments catalogue kinds (before ++ second :: behind)).2
        categories other

/-- Documents that agree mean the same. -/
theorem Document.Agrees.meansTheSame [Installation] {first second : Document}
    (hagrees : first.Agrees second) :
    first.MeansTheSame second := by
  have hplaced {one other : Document} (hsame : one.Agrees other) (before behind : List Document) :
      List.Forall₂ Agrees (before ++ one :: behind) (before ++ other :: behind) := by
    have hrefl (documents : List Document) : List.Forall₂ Agrees documents documents :=
      List.forall₂_same.mpr fun document _ ↦ agrees_refl document
    exact List.rel_append (hrefl before) (.cons hsame (hrefl behind))
  constructor
  · intro catalogue kinds before behind licenses
    constructor
    · intro hloaded
      exact (loadDocuments_of_agrees catalogue kinds (hplaced hagrees before behind) hloaded).1
    · intro hloaded
      exact (loadDocuments_of_agrees catalogue kinds (hplaced hagrees.symm before behind) hloaded).1
  · intro catalogue kinds before behind licenses hloaded
    obtain ⟨_, approved, hfirst, hsecond⟩ :=
      loadDocuments_of_agrees catalogue kinds (hplaced hagrees before behind) hloaded
    exact ⟨approved, _, _, run_approvedCategories_of_some hfirst,
      run_approvedCategories_of_some hsecond⟩

namespace Reader

/-- Rules mean the same whether they are written as elements or as tables. Assumes: both forms can
hold the rules, which are written as a tree of elements and as the entries of a table. Then the
table is read, the two documents agree with each other and with the declarations of the rules, and
they mean the same to readers. -/
theorem forms_mean_the_same [Installation] {rules : Written.Rules} {tree : Xml.Tree}
    {entries : Table} (source : String) (hproper : rules.Proper) (hwritten : rules.WrittenAs tree)
    (htabulated : rules.TabulatedAs entries) :
    ∃ document, Document.ofTable source entries = .ok document ∧
      (rules.document source).Agrees document ∧
      (Document.ofElement source tree.element).Agrees document ∧
      (Document.ofElement source tree.element).MeansTheSame document := by
  have helement : (rules.document source).Agrees (Document.ofElement source tree.element) :=
    hwritten.agrees hproper
  obtain ⟨document, hread, htable⟩ := htabulated.exists_agrees hproper
  have hagrees := helement.of_common htable
  exact ⟨document, hread, htable, hagrees, hagrees.meansTheSame⟩

/-- A license with a note and a matcher in which an element refers to another one. -/
def sampleRules : Written.Rules :=
  let word : Written.Matcher := { tag := "word", attributes := [("id", "t")], text := "Foo" }
  let reference : Written.Matcher :=
    { tag := "matcher_ref", attributes := [("id", "r"), ("refid", "t")] }
  let root : Written.Matcher := { tag := "or", members := [word, reference] }
  { licenses := [{ id := some "A", name := some "Alpha", notes := ["Note."], matcher := some root }]
    approved := ["A"]
    kinds := [[("factory", "text"), ("name", "word")]] }

/-- The rules as elements, with blanks between them and around texts. -/
def sampleTree : Xml.Tree :=
  let word : Xml.Tree :=
    { name := "word", attributes := [("id", "t")], text := "\n Foo ", tail := "\n" }
  let reference : Xml.Tree :=
    { name := "matcher_ref", attributes := [("refid", "t"), ("id", "r")], tail := " " }
  let root : Xml.Tree := { name := "or", text := "\n", children := [word, reference], tail := "\n" }
  let note : Xml.Tree := { name := "note", text := " Note.\n", tail := "\n" }
  let license : Xml.Tree :=
    { name := "license", attributes := [("id", "A"), ("name", "Alpha")], text := "\n"
      children := [note, root], tail := "\n" }
  let family : Xml.Tree := { name := "family", attributes := [("license_ref", "A")] }
  let kind : Xml.Tree :=
    { name := "matcher", attributes := [("name", "word"), ("factory", "text")], tail := "\n" }
  let licenses : Xml.Tree := { name := "licenses", text := "\n", children := [license] }
  let approved : Xml.Tree := { name := "approved", children := [family] }
  let matchers : Xml.Tree := { name := "matchers", children := [kind] }
  { name := "rules", children := [licenses, approved, matchers] }

/-- The rules as tables, with keys in another order and without what is empty. -/
def sampleTable : Table :=
  let word : Table := [("text", .text "Foo"), ("kind", .text "word"), ("id", .text "t")]
  let reference : Table := [("kind", .text "matcher_ref"), ("refid", .text "t"), ("id", .text "r")]
  let root : Table := [("children", .array [.table word, .table reference]), ("kind", .text "or")]
  let license : Table :=
    [("id", .text "A"), ("name", .text "Alpha"), ("notes", .text "Note."), ("matcher", .table root)]
  [("approved", .array [.text "A"]), ("licenses", .array [.table license]),
    ("matchers", .array [.table [("factory", .text "text"), ("name", .text "word")]])]

theorem proper_sampleRules : sampleRules.Proper := by
  constructor
  · intro license hlicense matcher hmatcher
    cases List.mem_singleton.mp hlicense
    cases hmatcher
    refine .intro (by decide) (by decide) (by decide) (by decide) ?_
    rw [List.forall_mem_cons, List.forall_mem_singleton]
    exact ⟨.intro (by decide) (by decide) (by decide) (by decide) nofun,
      .intro (by decide) (by decide) (by decide) (by decide) nofun⟩
  · decide

theorem writtenAs_sampleTree : sampleRules.WrittenAs sampleTree := by
  show (Written.Rules.join [.join [{ licenses := sampleRules.licenses }],
    { approved := sampleRules.approved }, { kinds := sampleRules.kinds }]).WrittenAs sampleTree
  have hblank (trees : List Xml.Tree) (hall : trees.all (isAllBlank ·.tail) = true) :
      ∀ child ∈ trees, isAllBlank child.tail = true := List.all_eq_true.mp hall
  refine .group (by decide) (.cons (.group (by decide) (.cons (.license ?_) .nil))
    (.cons (.approved rfl (.cons ?_ .nil)) (.cons (.kinds rfl (.cons ?_ .nil)) .nil)))
  · refine ⟨⟨rfl, .refl _, rfl, hblank _ rfl⟩, [_], [_], rfl, .cons ?_ .nil, .cons ?_ .nil⟩
    · exact ⟨⟨rfl, .refl _, rfl, nofun⟩, rfl⟩
    · refine .intro ⟨rfl, .refl _, rfl, hblank _ rfl⟩ (.cons ?_ (.cons ?_ .nil))
      · exact .intro ⟨rfl, .refl _, rfl, nofun⟩ .nil
      · exact .intro ⟨rfl, .swap _ _ _, rfl, nofun⟩ .nil
  · exact ⟨⟨rfl, .refl _, rfl, nofun⟩, rfl⟩
  · exact ⟨⟨rfl, .swap _ _ _, rfl, nofun⟩, rfl⟩

theorem tabulatedAs_sampleTable : sampleRules.TabulatedAs sampleTable := by
  have hword : Written.Matcher.TabulatedAs
      { tag := "word", attributes := [("id", "t")], text := "Foo" }
      [("text", .text "Foo"), ("kind", .text "word"), ("id", .text "t")] := by
    refine .intro ?_ (.inl ⟨_, rfl, rfl⟩) (.inr ⟨rfl, rfl⟩) (Written.spelled_map_text _) .nil
    exact .swap _ _ _
  have hreference : Written.Matcher.TabulatedAs
      { tag := "matcher_ref", attributes := [("id", "r"), ("refid", "t")] }
      [("kind", .text "matcher_ref"), ("refid", .text "t"), ("id", .text "r")] := by
    refine .intro ?_ (.inr ⟨rfl, rfl⟩) (.inr ⟨rfl, rfl⟩) (Written.spelled_map_text _) .nil
    exact .cons _ (.swap _ _ _)
  constructor
  · refine ⟨[_], .inl rfl, .cons ?_ .nil⟩
    refine .intro (.refl _) (.some (.text _)) (.some (.text _)) .none (.single rfl)
      (.some ⟨_, rfl, ?_⟩)
    refine .intro ?_ (.inr ⟨rfl, rfl⟩) (.inl rfl) .nil (.cons hword (.cons hreference .nil))
    exact .swap _ _ _
  · exact .inl rfl
  · exact ⟨[_], .inl rfl, .cons ⟨_, Written.spelled_map_text _, .refl _⟩ .nil⟩

section Sample

open Sample

/-- Blanks, the order of keys and what is left out make no difference, at any depth. -/
theorem forms_mean_the_same_nested :
    let word : Matcher := .leaf (some "t") (.literal "Foo") .unknown
    let reference : Matcher := .reference (some "r") "t" word
    let licenses : List License :=
      [⟨⟨"A", "Alpha"⟩, .any none [.registered "t" word, .registered "r" reference], some "Note.",
        none⟩]
    sampleRules.Proper ∧ sampleRules.WrittenAs sampleTree ∧ sampleRules.TabulatedAs sampleTable ∧
      (loadDocuments {} .builtIn [Document.ofElement "rules" sampleTree.element]).1 = .ok licenses ∧
      ∃ document, Document.ofTable "rules" sampleTable = .ok document ∧
        (Document.ofElement "rules" sampleTree.element).Agrees document ∧
        (Document.ofElement "rules" sampleTree.element).MeansTheSame document ∧
        (loadDocuments {} .builtIn [document]).1 = .ok licenses := by
  intro word reference licenses
  have hloaded : (loadDocuments {} .builtIn [Document.ofElement "rules" sampleTree.element]).1 =
      .ok licenses := by
    cbv
  obtain ⟨document, hread, _, hagrees, hsame⟩ := forms_mean_the_same "rules" proper_sampleRules
    writtenAs_sampleTree tabulatedAs_sampleTable
  refine ⟨proper_sampleRules, writtenAs_sampleTree, tabulatedAs_sampleTable, hloaded, document,
    hread, hagrees, hsame, ?_⟩
  exact (hsame.licenses {} .builtIn [] [] licenses).mp hloaded

end Sample

end Reader

end LicenseHeaders
