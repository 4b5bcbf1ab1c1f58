import LicenseHeaders.Proofs.Document.Written
import LicenseHeaders.Proofs.Effects

/-!
# Rules as tables

`Written.Rules.TabulatedAs` says how rules are written as tables: the entries of a table may stand
in any order, texts may have blanks around them, empty lists may be left out, a single note may
stand for itself, and values may be numbers or truth values that spell the text of an attribute.
Whatever the choice, a document is read, and it is the one of the rules
(`Written.Rules.TabulatedAs.exists_agrees`).
-/

set_option autoImplicit false
set_option relaxedAutoImplicit false

namespace LicenseHeaders

open Text Toml

namespace Toml

/-- A value spells a text. Numbers have at most as many digits as can be written. -/
inductive Value.Spells : Value → String → Prop
  | text (content : String) : Spells (.text content) content
  | integer (number : Int) (hdigits : number.natAbs < Nat.pow 10 maxDigits) :
      Spells (.integer number) (toString number)
  | float (number : Decimal.Double) : Spells (.float number) (attributeLayout.text number)
  | boolean (value : Bool) : Spells (.boolean value) (if value then "true" else "false")

/-- The entries of keys, each of which may be left out. -/
def entriesOf (parts : List (String × Option Value)) : Table :=
  parts.filterMap fun (key, value?) ↦ value?.map fun value ↦ (key, value)

/-- A key of a table holds an array, or is left out and the array is empty. -/
def Table.ArrayAt (entries : Table) (key : String) (items : List Value) : Prop :=
  entries.get? key = some (.array items) ∨ entries.get? key = none ∧ items = []

section Entries

variable {parts : List (String × Option Value)} {entries listed : Table} {key : String}

theorem Table.get?_eq_lookup (entries : Table) (key : String) :
    entries.get? key = entries.lookup key :=
  map_find?_eq_lookup entries key

/-- What is left out takes no key. -/
theorem map_fst_entriesOf_sublist (parts : List (String × Option Value)) :
    ((entriesOf parts).map (·.1)).Sublist (parts.map (·.1)) := by
  induction parts with
  | nil => exact List.nil_sublist _
  | cons part rest ih =>
    obtain ⟨key, value?⟩ := part
    cases value? with
    | none => exact ih.cons key
    | some value => exact ih.cons_cons key

theorem lookup_entriesOf (hnodup : (parts.map (·.1)).Nodup) (key : String) :
    (entriesOf parts).lookup key = (parts.lookup key).join := by
  induction parts with
  | nil => rfl
  | cons part rest ih =>
    obtain ⟨other, value?⟩ := part
    rw [List.map_cons, List.nodup_cons] at hnodup
    have hrest := ih hnodup.2
    rw [List.lookup_cons]
    by_cases hkey : key = other
    · rw [beq_iff_eq.mpr hkey]
      cases value? with
      | some value => rw [hkey]; exact List.lookup_cons_self
      | none =>
        show (entriesOf rest).lookup key = none
        rw [Option.eq_none_iff_forall_ne_some]
        intro value hvalue
        have hmem := (map_fst_entriesOf_sublist rest).subset (exists_lookup_iff.mp ⟨value, hvalue⟩)
        exact hnodup.1 (hkey ▸ hmem)
    · rw [beq_false_of_ne hkey]
      cases value? with
      | none => exact hrest
      | some value =>
        show ((other, value) :: entriesOf rest).lookup key = _
        rw [List.lookup_cons, beq_false_of_ne hkey]
        exact hrest

/-- What a key holds does not depend on the order of the entries. -/
theorem get?_eq_of_perm (hnodup : (listed.map (·.1)).Nodup) (hperm : listed.Perm entries)
    (key : String) : entries.get? key = listed.lookup key := by
  rw [Table.get?_eq_lookup, lookup_eq_of_perm hnodup hperm]

end Entries

end Toml

/-! ### How rules are written as tables -/

namespace Written

/-- A value is a text, but for blanks around it. It may be left out if nothing else is there. -/
def TextIs (text : String) (value? : Option Value) : Prop :=
  (∃ content, value? = some (.text content) ∧ trimmed content = trimmed text) ∨
    value? = none ∧ trimmed text = ""

/-- Entries spell attributes, in some order. -/
def Spelled (attributes : List (String × String)) (entries : Table) : Prop :=
  List.Forall₂ (fun given entry ↦ entry.1 = given.1 ∧ entry.2.Spells given.2) attributes entries

/-- A matcher is written as a table. -/
inductive Matcher.TabulatedAs : Matcher → Table → Prop
  | intro {matcher : Matcher} {entries attributes : Table} {text? children? : Option Value}
      {tables : List Table}
      (hentries : List.Perm (entriesOf [("kind", some (.text matcher.tag)), ("text", text?),
        ("children", children?)] ++ attributes) entries)
      (htext : TextIs matcher.text text?)
      (hchildren : children? = some (.array (tables.map .table)) ∨ children? = none ∧ tables = [])
      (hattributes : Spelled matcher.attributes attributes)
      (hmembers : List.Forall₂ TabulatedAs matcher.members tables) : TabulatedAs matcher entries

/-- A value holds notes: several, or one that stands for itself. It may be left out if there are
none. -/
inductive HoldsNotes : List String → Option Value → Prop
  | none : HoldsNotes [] none
  | single {note content : String} (hnote : trimmed content = trimmed note) :
      HoldsNotes [note] (some (.text content))
  | several {notes contents : List String}
      (hnotes : List.Forall₂ (fun note content ↦ trimmed content = trimmed note) notes contents) :
      HoldsNotes notes (some (.array (contents.map .text)))

/-- A license is written as a table. -/
inductive License.TabulatedAs (license : License) (entries : Table) : Prop
  | intro {id? name? derivedFrom? notes? matcher? : Option Value}
      (hentries : List.Perm (entriesOf [("id", id?), ("name", name?),
        ("derived_from", derivedFrom?), ("notes", notes?), ("matcher", matcher?)]) entries)
      (hid : Option.Rel (fun text value ↦ value.Spells text) license.id id?)
      (hname : Option.Rel (fun text value ↦ value.Spells text) license.name name?)
      (hderived : Option.Rel (fun text value ↦ value.Spells text) license.derivedFrom derivedFrom?)
      (hnotes : HoldsNotes license.notes notes?)
      (hmatcher : Option.Rel (fun matcher value ↦
        ∃ table, value = .table table ∧ matcher.TabulatedAs table) license.matcher matcher?)

/-- The declaration of a kind is written as a table. -/
def KindTabulatedAs (attributes : List (String × String)) (entries : Table) : Prop :=
  ∃ listed : Table, Spelled attributes listed ∧ listed.Perm entries

/-- Rules are written as the tables of a document. Other keys of the document do not matter. -/
structure Rules.TabulatedAs (rules : Rules) (entries : Table) : Prop where
  licenses : ∃ tables : List Table, entries.ArrayAt "licenses" (tables.map .table) ∧
    List.Forall₂ License.TabulatedAs rules.licenses tables
  approved : entries.ArrayAt "approved" (rules.approved.map .text)
  kinds : ∃ tables : List Table, entries.ArrayAt "matchers" (tables.map .table) ∧
    List.Forall₂ KindTabulatedAs rules.kinds tables

end Written

/-! ### What is read of tables -/

section Reading

variable {source : String} {entries : Table}

theorem attributeText_of_spells {tag key text : String} {value : Value}
    (hspells : value.Spells text) : attributeText source tag key value = .ok text := by
  cases hspells with
  | integer number hdigits => rw [attributeText, if_pos hdigits]
  | _ => rfl

/-- Attributes that are spelled are read, in the order of the entries. -/
theorem exists_attributesOf {tag : String} {attributes : List (String × String)} {listed : Table}
    (hspelled : Written.Spelled attributes listed) (hperm : listed.Perm entries) :
    ∃ found, attributesOf source tag entries = .ok found ∧ attributes.Perm found := by
  have hread : List.Forall₂ (fun entry given ↦
      (do return (entry.1, ← attributeText source tag entry.1 entry.2)) = .ok given) listed
      attributes := by
    refine List.Forall₂.flip (hspelled.imp fun given entry hgiven ↦ ?_)
    show (do return (entry.1, ← attributeText source tag entry.1 entry.2)) = .ok given
    rw [attributeText_of_spells hgiven.2, hgiven.1]
    rfl
  obtain ⟨found, hfound, hsame⟩ := exists_forall₂_of_perm hread hperm
  exact ⟨found, mapM_eq_ok_iff.mpr hfound, hsame⟩

theorem texts?_map_text (contents : List String) :
    (Value.array (contents.map .text)).texts? = some contents := by
  rw [Value.texts?]
  induction contents with
  | nil => rfl
  | cons content rest ih =>
    rw [List.map_cons, List.mapM_cons, ih]
    rfl

theorem membersOf_of_arrayAt {Member : Type} {key : String} {cause : Cause}
    {read : Value → Option (List Member)} {items : List Value} {members : List Member}
    (harray : entries.ArrayAt key items) (hnone : read (.array []) = some [])
    (hread : read (.array items) = some members) :
    membersOf source key cause read entries = .ok members := by
  rw [membersOf]
  rcases harray with hsome | ⟨hmissing, rfl⟩
  · rw [hsome]
    dsimp only
    rw [hread]
  · rw [hmissing, ← Option.some.inj (hnone.symm.trans hread)]

end Reading

namespace Node

variable {source kind : String}

/-- The matchers in a matcher are what its table holds under `children`. -/
theorem childrenIn_eq (entries : Table) :
    childrenIn source kind entries =
      match entries.lookup "children" with
      | none => .ok []
      | some (.array items) => childNodes source kind items
      | some _ => .error (.of .childrenNotList source kind) := by
  induction entries with
  | nil => simp only [childrenIn, List.lookup_nil]
  | cons entry rest ih =>
    obtain ⟨key, value⟩ := entry
    by_cases hkey : key = "children"
    · rw [hkey, List.lookup_cons_self]
      cases value <;> simp only [childrenIn, beq_self_eq_true, if_true]
    · rw [List.lookup_cons, beq_false_of_ne (Ne.symm hkey), ← ih]
      cases value <;> simp only [childrenIn, beq_false_of_ne hkey, Bool.false_eq_true, if_false]

theorem childNodes_map_table (tables : List Table) :
    childNodes source kind (tables.map .table) = tables.mapM (ofMatcher source) := by
  induction tables with
  | nil =>
    rw [List.map_nil, List.mapM_nil, childNodes]
    rfl
  | cons table rest ih =>
    rw [List.map_cons, List.mapM_cons, childNodes, ih]
    rfl

end Node

namespace Written

variable {source : String} {entries : Table}

/-- What a table of a matcher holds under the keys that are no attributes, and the attributes. -/
structure Matcher.Listed (matcher : Matcher) (text? children? : Option Value)
    (attributes entries : Table) : Prop where
  kind : entries.get? "kind" = some (.text matcher.tag)
  text : entries.get? "text" = text?
  children : entries.lookup "children" = children?
  attributes : attributes.Perm (entries.filter (!Node.matcherKeys.contains ·.1))

theorem map_fst_of_spelled {attributes : List (String × String)} {listed : Table}
    (hspelled : Spelled attributes listed) : listed.map (·.1) = attributes.map (·.1) := by
  induction hspelled with
  | nil => rfl
  | cons hgiven _ ih => rw [List.map_cons, List.map_cons, ih, hgiven.1]

theorem Matcher.listed_of_perm {matcher : Matcher} {attributes : Table}
    {text? children? : Option Value}
    (hnodup : (matcher.attributes.map (·.1)).Nodup)
    (hkeys : ∀ name ∈ matcher.attributes.map (·.1), name ∉ Node.matcherKeys)
    (hspelled : Spelled matcher.attributes attributes)
    (hentries : List.Perm (entriesOf [("kind", some (.text matcher.tag)), ("text", text?),
      ("children", children?)] ++ attributes) entries) :
    matcher.Listed text? children? attributes entries := by
  rw [← map_fst_of_spelled hspelled] at hnodup hkeys
  set parts : List (String × Option Value) :=
    [("kind", some (.text matcher.tag)), ("text", text?), ("children", children?)]
  have hsublist : ((entriesOf parts).map (·.1)).Sublist Node.matcherKeys :=
    map_fst_entriesOf_sublist parts
  have hdistinct : ((entriesOf parts ++ attributes).map (·.1)).Nodup := by
    rw [List.map_append]
    exact List.Nodup.append (hsublist.nodup (by decide)) hnodup
      fun name hkey hname ↦ hkeys name hname (hsublist.subset hkey)
  have hget {key : String} (hkey : key ∈ Node.matcherKeys) :
      entries.get? key = (parts.lookup key).join := by
    have hnone : attributes.lookup key = none := by
      rw [Option.eq_none_iff_forall_ne_some]
      intro value hvalue
      exact hkeys key (exists_lookup_iff.mp ⟨value, hvalue⟩) hkey
    have hparts : (parts.map (·.1)).Nodup := by
      show Node.matcherKeys.Nodup
      decide
    rw [get?_eq_of_perm hdistinct hentries, List.lookup_append, hnone, Option.or_none,
      lookup_entriesOf hparts]
  constructor
  · rw [hget (by decide)]
    rfl
  · rw [hget (by decide)]
    rfl
  · rw [← Table.get?_eq_lookup, hget (by decide)]
    rfl
  · have hleft : (entriesOf parts).filter (!Node.matcherKeys.contains ·.1) = [] := by
      refine List.filter_eq_nil_iff.mpr fun entry hentry ↦ ?_
      have hname := hsublist.subset (List.mem_map_of_mem hentry)
      rw [List.contains_iff_mem.mpr hname]
      exact Bool.false_ne_true
    have hkept : attributes.filter (!Node.matcherKeys.contains ·.1) = attributes := by
      refine List.filter_eq_self.mpr fun entry hentry ↦ ?_
      have hname := hkeys entry.1 (List.mem_map_of_mem hentry)
      rw [Bool.not_eq_true', ← Bool.not_eq_true, List.contains_iff_mem]
      exact hname
    refine List.Perm.trans (.of_eq ?_) (hentries.filter _)
    rw [List.filter_append, hleft, hkept, List.nil_append]

end Written

/-- A matcher is read if its tag, its text, the matchers in it and its attributes are. -/
theorem Node.ofMatcherTable_eq {source kind text : String} {entries : Table}
    {attributes : List (String × String)} {nodes : List Node}
    {children : String → Except Fault (List Node)}
    (hkind : entries.get? "kind" = some (.text kind)) (hnonempty : kind ≠ "")
    (htext : Written.TextIs text (entries.get? "text")) (hnodes : children kind = .ok nodes)
    (hattributes : attributesOf source kind (entries.filter (!matcherKeys.contains ·.1)) =
      .ok attributes) :
    ofMatcherTable source entries children =
      .ok ⟨kind, attributes, trimmed text, nodes, source⟩ := by
  have hfilled : kind.isEmpty = false := by
    rw [← Bool.not_eq_true, String.isEmpty_iff]
    exact hnonempty
  have htag : ((entries.get? "kind").bind Value.text?).getD "" = kind := by
    rw [hkind]
    rfl
  rw [ofMatcherTable, htag, hfilled]
  rcases htext with ⟨content, hcontent, hsame⟩ | ⟨hmissing, hsame⟩
  case' inl => rw [hcontent, ← hsame]
  case' inr => rw [hmissing, hsame]
  all_goals
    simp only [Bool.false_eq_true, if_false, pure_bind, hnodes, ok_bind, hattributes]
    rfl

namespace Written

variable {source : String} {entries : Table}

/-- A matcher that is written as a table is read. -/
theorem Matcher.TabulatedAs.exists_ofMatcher {matcher : Matcher} (hproper : matcher.Proper)
    (htabulated : matcher.TabulatedAs entries) :
    ∃ node, Node.ofMatcher source entries = .ok node ∧ (matcher.node source).Agrees node := by
  induction matcher using Matcher.induction generalizing entries with
  | step matcher ih =>
    obtain ⟨htag, _, hnodup, hkeys, hproper⟩ := hproper
    obtain ⟨hentries, htext, hchildren, hattributes, hmembers⟩ := htabulated
    have hlisted := listed_of_perm hnodup hkeys hattributes hentries
    obtain ⟨found, hfound, hsame⟩ := exists_attributesOf hattributes hlisted.attributes
    have hread := forall₂_imp_of_mem
      (fun member hmember table htable ↦ ih member hmember (hproper member hmember) htable) hmembers
    obtain ⟨nodes, hnodes, hagree⟩ := exists_mapM_of_forall₂ hread
    have hchildren : Node.childrenIn source matcher.tag entries = .ok nodes := by
      rw [Node.childrenIn_eq, hlisted.children]
      rcases hchildren with rfl | ⟨rfl, rfl⟩
      · rw [← hnodes, ← Node.childNodes_map_table]
      · exact hnodes
    refine ⟨_, Node.ofMatcherTable_eq hlisted.kind htag (hlisted.text ▸ htext) hchildren hfound, ?_⟩
    rw [node_eq]
    refine .intro rfl (valuesOf_eq_of_perm hnodup hsame) rfl rfl ?_
    rw [List.forall₂_map_left_iff]
    exact hagree

end Written

/-- What a license holds under `matcher` is read: a table of a matcher, or nothing. -/
def Node.RootsIn (source : String) (entries : Table) (roots : List Node) : Prop :=
  entries.get? "matcher" = none ∧ roots = [] ∨
    ∃ table root, entries.get? "matcher" = some (.table table) ∧
      ofMatcher source table = .ok root ∧ roots = [root]

/-- A license is read if its attributes, its notes and its matcher are, and it has no other keys. -/
theorem Node.ofLicense_eq {source : String} {entries : Table}
    {attributes : List (String × String)} {notes : List String} {roots : List Node}
    (hattributes : attributesOf source licenseTag (licenseAttributes.filterMap fun key ↦
      (entries.get? key).map fun value ↦ (key, value)) = .ok attributes)
    (hkeys : ∀ key ∈ entries.keys, key ∈ licenseAttributes ++ ["notes", "matcher"])
    (hnotes : notesOf source entries = .ok notes) (hroots : RootsIn source entries roots) :
    ofLicense source entries =
      .ok ⟨licenseTag, attributes, "", notes.map (Written.note source) ++ roots, source⟩ := by
  have hknown :
      entries.keys.filter (!(licenseAttributes ++ ["notes", "matcher"]).contains ·) = [] := by
    refine List.filter_eq_nil_iff.mpr fun key hkey ↦ ?_
    rw [List.contains_iff_mem.mpr (hkeys key hkey)]
    exact Bool.false_ne_true
  rw [ofLicense, hattributes, ok_bind, hknown, hnotes]
  simp only [List.isEmpty_nil, Bool.not_true, Bool.false_eq_true, if_false, ok_bind]
  rcases hroots with ⟨hget, rfl⟩ | ⟨table, root, hget, hroot, rfl⟩
  · rw [hget]
    rfl
  · have htable : tableOf source "license matcher" (.table table) = .ok table := rfl
    simp only [hget, htable, ok_bind, hroot]
    rfl

namespace Written

variable {source : String} {entries : Table}

/-- Notes that are held by a value are read. -/
theorem HoldsNotes.exists_notesOf {notes : List String} {notes? : Option Value}
    (hholds : HoldsNotes notes notes?)
    (hget : entries.get? "notes" = notes?) :
    ∃ contents, Node.notesOf source entries = .ok contents ∧
      List.Forall₂ (fun note content ↦ trimmed content = trimmed note) notes contents := by
  rw [Node.notesOf, hget]
  cases hholds with
  | none => exact ⟨[], rfl, .nil⟩
  | @single note content hnote => exact ⟨[content], rfl, .cons hnote .nil⟩
  | @several notes contents hnotes =>
    refine ⟨contents, ?_, hnotes⟩
    dsimp only
    rw [texts?_map_text]

/-- An attribute that may be left out is spelled by an entry that may be left out. -/
theorem spelled_toList {key : String} {given? : Option String} {value? : Option Value}
    (hspells : Option.Rel (fun text value ↦ value.Spells text) given? value?) :
    Spelled (given?.map fun text ↦ (key, text)).toList
      (value?.map fun value ↦ (key, value)).toList := by
  cases hspells with
  | none => exact .nil
  | some hvalue => exact .cons ⟨rfl, hvalue⟩ .nil

/-- What a table of a license holds. -/
structure License.Listed (license : License) (entries : Table) : Prop where
  attributes : Spelled license.attributes (Node.licenseAttributes.filterMap fun key ↦
    (entries.get? key).map fun value ↦ (key, value))
  keys : ∀ key ∈ entries.keys, key ∈ Node.licenseAttributes ++ ["notes", "matcher"]
  notes : HoldsNotes license.notes (entries.get? "notes")
  matcher : Option.Rel (fun matcher value ↦ ∃ table, value = .table table ∧
    Matcher.TabulatedAs matcher table) license.matcher (entries.get? "matcher")

theorem License.TabulatedAs.listed {license : License} (htabulated : license.TabulatedAs entries) :
    license.Listed entries := by
  obtain @⟨id?, name?, derivedFrom?, notes?, matcher?, hentries, hid, hname, hderived, hnotes,
    hmatcher⟩ := htabulated
  set parts : List (String × Option Value) :=
    [("id", id?), ("name", name?), ("derived_from", derivedFrom?), ("notes", notes?),
      ("matcher", matcher?)]
  have hparts : (parts.map (·.1)).Nodup := by
    show (Node.licenseAttributes ++ ["notes", "matcher"]).Nodup
    decide
  have hget (key : String) : entries.get? key = (parts.lookup key).join := by
    rw [get?_eq_of_perm ((map_fst_entriesOf_sublist parts).nodup hparts) hentries,
      lookup_entriesOf hparts]
  constructor
  · have hlisted : (Node.licenseAttributes.filterMap fun key ↦
        (entries.get? key).map fun value ↦ (key, value)) =
          (id?.map fun value ↦ ("id", value)).toList ++
            (name?.map fun value ↦ ("name", value)).toList ++
            (derivedFrom?.map fun value ↦ ("derived_from", value)).toList := by
      simp only [hget]
      cases id? <;> cases name? <;> cases derivedFrom? <;> rfl
    rw [hlisted]
    exact List.rel_append (List.rel_append (spelled_toList hid) (spelled_toList hname))
      (spelled_toList hderived)
  · intro key hkey
    exact (map_fst_entriesOf_sublist parts).subset ((hentries.map (·.1)).mem_iff.mpr hkey)
  · rw [hget]
    exact hnotes
  · rw [hget]
    exact hmatcher

/-- The matcher of a license is read, if there is one. -/
theorem License.Listed.exists_rootsIn {license : License} (hlisted : license.Listed entries)
    (hproper : ∀ matcher ∈ license.matcher, matcher.Proper) :
    ∃ roots, Node.RootsIn source entries roots ∧
      List.Forall₂ Node.Agrees (license.matcher.toList.map (Matcher.node source)) roots := by
  have hmatcher := hlisted.matcher
  unfold Node.RootsIn
  generalize entries.get? "matcher" = value? at hmatcher ⊢
  generalize license.matcher = matcher? at hmatcher hproper ⊢
  cases hmatcher with
  | none => exact ⟨[], .inl ⟨rfl, rfl⟩, .nil⟩
  | @some matcher _ hvalue =>
    obtain ⟨table, rfl, htable⟩ := hvalue
    obtain ⟨root, hroot, hagrees⟩ := htable.exists_ofMatcher (hproper matcher rfl)
    exact ⟨[root], .inr ⟨table, root, rfl, hroot, rfl⟩, .cons hagrees .nil⟩

/-- A license that is written as a table is read. -/
theorem License.TabulatedAs.exists_ofLicense {license : License}
    (hproper : ∀ matcher ∈ license.matcher, matcher.Proper)
    (htabulated : license.TabulatedAs entries) :
    ∃ node, Node.ofLicense source entries = .ok node ∧ (license.node source).Agrees node := by
  have hlisted := htabulated.listed
  obtain ⟨attributes, hattributes, hsame⟩ := exists_attributesOf hlisted.attributes (.refl _)
  obtain ⟨contents, hcontents, hsaid⟩ := hlisted.notes.exists_notesOf rfl
  obtain ⟨roots, hroots, hagree⟩ := hlisted.exists_rootsIn hproper
  refine ⟨_, Node.ofLicense_eq hattributes hlisted.keys hcontents hroots, ?_⟩
  refine .intro rfl (valuesOf_eq_of_perm license.nodup_attributes hsame) rfl rfl ?_
  refine List.rel_append ?_ hagree
  rw [List.forall₂_map_left_iff, List.forall₂_map_right_iff]
  refine hsaid.imp fun text content hsame ↦ ?_
  rw [note, note, hsame]
  exact Node.agrees_refl _

/-- The declaration of a kind that is written as a table is read. -/
theorem exists_ofMatcherKind {attributes : List (String × String)}
    (hnodup : (attributes.map (·.1)).Nodup) (htabulated : KindTabulatedAs attributes entries) :
    ∃ node, Node.ofMatcherKind source entries = .ok node ∧
      (kindNode source attributes).Agrees node := by
  obtain ⟨listed, hspelled, hperm⟩ := htabulated
  obtain ⟨found, hfound, hsame⟩ := exists_attributesOf hspelled hperm
  refine ⟨kindNode source found, ?_, .intro rfl (valuesOf_eq_of_perm hnodup hsame) rfl rfl .nil⟩
  rw [Node.ofMatcherKind, hfound]
  rfl

/-- What is written in tables is read of an array of them. -/
theorem exists_mapM_tables {Given : Type} {what : String} {read : Table → Except Fault Node}
    {node : Given → Node} {givens : List Given} {tables : List Table}
    (hread : List.Forall₂ (fun given table ↦ ∃ found, read table = .ok found ∧
      (node given).Agrees found) givens tables) :
    ∃ nodes, (tables.map Value.table).mapM (fun value ↦ do read (← tableOf source what value)) =
      .ok nodes ∧ List.Forall₂ Node.Agrees (givens.map node) nodes := by
  rw [List.mapM_map]
  obtain ⟨nodes, hnodes, hagree⟩ := exists_mapM_of_forall₂ hread
  exact ⟨nodes, hnodes, List.forall₂_map_left_iff.mpr hagree⟩

/-- Rules that are written as tables are read, and what is read are the declarations of the
rules. -/
theorem Rules.TabulatedAs.exists_agrees {rules : Rules} (hproper : rules.Proper)
    (htabulated : rules.TabulatedAs entries) :
    ∃ document, Document.ofTable source entries = .ok document ∧
      (rules.document source).Agrees document := by
  obtain ⟨licenseTables, hlicensesAt, hlicenseTables⟩ := htabulated.licenses
  obtain ⟨kindTables, hkindsAt, hkindTables⟩ := htabulated.kinds
  obtain ⟨licenses, hlicenses, hlicensesAgree⟩ := exists_mapM_tables (forall₂_imp_of_mem
    (fun license hlicense _ htable ↦
      htable.exists_ofLicense (hproper.matchers license hlicense)) hlicenseTables)
  obtain ⟨kinds, hkinds, hkindsAgree⟩ := exists_mapM_tables (forall₂_imp_of_mem
    (fun attributes hattributes _ htable ↦
      exists_ofMatcherKind (hproper.kinds attributes hattributes) htable) hkindTables)
  refine ⟨⟨licenses, rules.approved.map (Node.ofApproved source), kinds, [source]⟩, ?_, ?_⟩
  · rw [Document.ofTable, membersOf_of_arrayAt hlicensesAt rfl rfl,
      membersOf_of_arrayAt htabulated.approved rfl (texts?_map_text _),
      membersOf_of_arrayAt hkindsAt rfl rfl, ok_bind, ok_bind, ok_bind, hlicenses, ok_bind, hkinds]
    rfl
  · exact ⟨hlicensesAgree, List.forall₂_same.mpr fun node _ ↦ node.agrees_refl, hkindsAgree, rfl⟩

/-! ### All rules can be written as tables -/

/-- Attributes are spelled by their texts. -/
theorem spelled_map_text (attributes : List (String × String)) :
    Spelled attributes (attributes.map fun given ↦ (given.1, .text given.2)) := by
  rw [Spelled, List.forall₂_map_right_iff, List.forall₂_same]
  exact fun given _ ↦ ⟨rfl, .text given.2⟩

theorem spells_map_text (given? : Option String) :
    Option.Rel (fun text (value : Value) ↦ value.Spells text) given? (given?.map Value.text) := by
  cases given? with
  | none => exact .none
  | some given => exact .some (.text given)

theorem Matcher.exists_tabulatedAs (matcher : Matcher) :
    ∃ entries, matcher.TabulatedAs entries := by
  induction matcher using Matcher.induction with
  | step matcher ih =>
    obtain ⟨tables, htables⟩ := exists_forall₂ ih
    exact ⟨_, .intro (.refl _) (.inl ⟨matcher.text, rfl, rfl⟩) (.inl rfl)
      (spelled_map_text matcher.attributes) htables⟩

theorem License.exists_tabulatedAs (license : License) :
    ∃ entries, license.TabulatedAs entries := by
  have hnotes : HoldsNotes license.notes (some (.array (license.notes.map .text))) :=
    .several (List.forall₂_same.mpr fun _ _ ↦ rfl)
  obtain ⟨matcher?, hmatcher⟩ : ∃ matcher?, Option.Rel (fun matcher value ↦
      ∃ table, value = Value.table table ∧ Matcher.TabulatedAs matcher table) license.matcher
        matcher? := by
    cases license.matcher with
    | none => exact ⟨none, .none⟩
    | some matcher =>
      obtain ⟨table, htable⟩ := matcher.exists_tabulatedAs
      exact ⟨some (.table table), .some ⟨table, rfl, htable⟩⟩
  exact ⟨_, .intro (.refl _) (spells_map_text _) (spells_map_text _) (spells_map_text _) hnotes
    hmatcher⟩

/-- All rules are written as some tables. -/
theorem Rules.exists_tabulatedAs (rules : Rules) : ∃ entries, rules.TabulatedAs entries := by
  obtain ⟨licenses, hlicenses⟩ := exists_forall₂ fun license (_ : license ∈ rules.licenses) ↦
    license.exists_tabulatedAs
  obtain ⟨kinds, hkinds⟩ := exists_forall₂ fun attributes (_ : attributes ∈ rules.kinds) ↦
    (⟨_, _, spelled_map_text attributes, .refl _⟩ : ∃ table, KindTabulatedAs attributes table)
  let entries : Table :=
    [("licenses", .array (licenses.map .table)), ("approved", .array (rules.approved.map .text)),
      ("matchers", .array (kinds.map .table))]
  exact ⟨entries, ⟨licenses, .inl rfl, hlicenses⟩, .inl rfl, kinds, .inl rfl, hkinds⟩

end Written

end LicenseHeaders
