import LicenseHeaders.Document.Load
import LicenseHeaders.Proofs.Refusal

/-!
# Faults of rule documents

A rule document that cannot be read is meant to become a configuration error that names its source.
That is so for tables of every shape, unless an integer in them has more digits than are written
(`Document.raisesOnly_ofTable`), and for elements of every shape. It is not so for every source.
`Document.Evades` lists what becomes another fault: an address whose host is refused, a request or a
host that is refused before anything is sent, a network that fails in a way nobody looks for, a
declared encoding that is not known or cannot be set up, and a number that is too long to be read or
to be written. All that remains is refused by name (`Document.names_or_evades_of_load`), and nothing
that is listed is (`Document.load_of_evades`).
-/

set_option autoImplicit false
set_option relaxedAutoImplicit false

namespace LicenseHeaders

open Text

/-! ### Tables -/

/-- An integer with more digits than are written stands somewhere in a value. -/
inductive Toml.Value.HasLongInteger : Toml.Value → Prop
  | integer {number : Int} (hlong : Nat.pow 10 maxDigits ≤ number.natAbs) :
    HasLongInteger (.integer number)
  | array {items : List Toml.Value} {item : Toml.Value} (hitem : item ∈ items)
    (hlong : HasLongInteger item) : HasLongInteger (.array items)
  | table {entries : Toml.Table} {entry : String × Toml.Value} (hentry : entry ∈ entries)
    (hlong : HasLongInteger entry.2) : HasLongInteger (.table entries)

/-- What a value of a document becomes where it is refused: a configuration error that names the
source, unless an integer in it has more digits than are written. -/
def Refuses (source : String) (value : Toml.Value) (fault : Fault) : Prop :=
  fault.Names source ∨ fault = .value .numberTooLongToWrite ∧ value.HasLongInteger

namespace Refuses

variable {source : String} {fault : Fault}

theorem of (cause : Cause) (source node : String) (value : Toml.Value) :
    Refuses source value (.of cause source node) :=
  .inl (Fault.names_of cause source node)

theorem array {items : List Toml.Value} {item : Toml.Value} (hitem : item ∈ items)
    (hrefuses : Refuses source item fault) : Refuses source (.array items) fault :=
  hrefuses.imp_right (And.imp_right (.array hitem))

theorem table {entries : Toml.Table} {entry : String × Toml.Value} (hentry : entry ∈ entries)
    (hrefuses : Refuses source entry.2 fault) : Refuses source (.table entries) fault :=
  hrefuses.imp_right (And.imp_right (.table hentry))

/-- What some entries of a table become, the table becomes. -/
theorem table_mono {entries more : Toml.Table} (hsubset : entries ⊆ more)
    (hrefuses : Refuses source (.table entries) fault) : Refuses source (.table more) fault := by
  refine hrefuses.imp_right (And.imp_right fun hlong ↦ ?_)
  cases hlong with
  | table hentry hlong => exact .table (hsubset hentry) hlong

/-- What some members of an array become, the array becomes. -/
theorem array_mono {items more : List Toml.Value} (hsubset : items ⊆ more)
    (hrefuses : Refuses source (.array items) fault) : Refuses source (.array more) fault := by
  refine hrefuses.imp_right (And.imp_right fun hlong ↦ ?_)
  cases hlong with
  | array hitem hlong => exact .array (hsubset hitem) hlong

end Refuses

variable {source tag key : String}

theorem raisesOnly_attributeText (value : Toml.Value) :
    RaisesOnly (Refuses source value) (attributeText source tag key value) := by
  cases value with
  | text content => exact raisesOnly_ok content
  | boolean value => exact raisesOnly_ok _
  | float number => exact raisesOnly_ok _
  | integer number =>
    rw [attributeText]
    split
    · exact raisesOnly_ok _
    · next hlong => exact raisesOnly_error (.inr ⟨rfl, .integer (Nat.le_of_not_lt hlong)⟩)
  | moment => exact raisesOnly_error (.of _ source tag _)
  | array items => exact raisesOnly_error (.of _ source tag _)
  | table entries => exact raisesOnly_error (.of _ source tag _)

theorem raisesOnly_attributesOf (entries : Toml.Table) :
    RaisesOnly (Refuses source (.table entries)) (attributesOf source tag entries) := by
  refine raisesOnly_mapM fun entry hentry ↦ ?_
  have htext : RaisesOnly (Refuses source (.table entries))
      (attributeText source tag entry.1 entry.2) :=
    (raisesOnly_attributeText entry.2).mono fun _ ↦ .table hentry
  exact htext.bind fun _ _ ↦ raisesOnly_ok _

/-- A value that has to be a table is refused as the table is. -/
theorem raisesOnly_tableOf_bind {what : String} {read : Toml.Table → Except Fault Node}
    (hread : ∀ entries, RaisesOnly (Refuses source (.table entries)) (read entries))
    (value : Toml.Value) :
    RaisesOnly (Refuses source value) (do read (← tableOf source what value)) := by
  unfold tableOf
  cases value with
  | table entries => exact hread entries
  | _ => exact raisesOnly_error (.of _ source "" _)

/-- What a key of a table holds stands in the table with that key. -/
theorem Toml.Table.mem_of_get? {table : Toml.Table} {value : Toml.Value}
    (hget : table.get? key = some value) : (key, value) ∈ table := by
  rw [get?, Option.map_eq_some_iff] at hget
  obtain ⟨⟨other, _⟩, hfound, rfl⟩ := hget
  obtain rfl : other = key := by simpa using List.find?_some hfound
  exact List.mem_of_find?_eq_some hfound

namespace Node

theorem raisesOnly_ofMatcherTable {entries : Toml.Table}
    {children : String → Except Fault (List Node)}
    (hchildren : ∀ kind, RaisesOnly (Refuses source (.table entries)) (children kind)) :
    RaisesOnly (Refuses source (.table entries)) (ofMatcherTable source entries children) := by
  have hnode (kind text : String) : RaisesOnly (Refuses source (.table entries)) (do
      let nodes ← children kind
      let attributes ← attributesOf source kind (entries.filter (!matcherKeys.contains ·.1))
      return ({ tag := kind, attributes, text := trimmed text, children := nodes, source } : Node))
      := by
    refine (hchildren kind).bind fun nodes _ ↦ RaisesOnly.bind ?_ fun _ _ ↦ raisesOnly_ok _
    exact (raisesOnly_attributesOf _).mono fun _ ↦ Refuses.table_mono (List.filter_subset_self _)
  simp only [ofMatcherTable]
  split
  · exact raisesOnly_error (.of _ source "" _)
  · split
    · exact hnode _ ""
    · next content _ => exact hnode _ content
    · exact raisesOnly_error (.of _ source _ _)

-- Both theorems go with the readers: from a matcher to the first key with its members, and from
-- an array to its first member and the members behind that.

mutual

/-- The matchers in a matcher are refused as its table is. -/
theorem raisesOnly_childrenIn (kind : String) : ∀ entries : Toml.Table,
    RaisesOnly (Refuses source (.table entries)) (childrenIn source kind entries)
  | [] => by
    rw [childrenIn]
    exact raisesOnly_ok _
  | (key, value) :: rest => by
    rw [childrenIn.eq_def]
    dsimp only
    split
    · split
      · next items =>
        have hmem : (key, Toml.Value.array items) ∈ (key, Toml.Value.array items) :: rest :=
          List.mem_cons_self
        exact (raisesOnly_childNodes kind items).mono fun _ ↦ Refuses.table hmem
      · exact raisesOnly_error (.of _ source kind _)
    · exact (raisesOnly_childrenIn kind rest).mono
        fun _ ↦ Refuses.table_mono (List.subset_cons_self _ _)

/-- The matchers that the members of an array declare are refused as the array is. -/
theorem raisesOnly_childNodes (kind : String) : ∀ items : List Toml.Value,
    RaisesOnly (Refuses source (.array items)) (childNodes source kind items)
  | [] => by
    rw [childNodes]
    exact raisesOnly_ok _
  | .table entries :: rest => by
    rw [childNodes]
    have hnode := raisesOnly_ofMatcherTable fun inner ↦ raisesOnly_childrenIn inner entries
    refine (hnode.mono fun _ ↦ Refuses.array List.mem_cons_self).bind fun node _ ↦ ?_
    have hrest := (raisesOnly_childNodes kind rest).mono
      fun _ ↦ Refuses.array_mono (List.subset_cons_self (.table entries) rest)
    exact hrest.bind fun _ _ ↦ raisesOnly_ok _
  | .text _ :: _ | .integer _ :: _ | .float _ :: _ | .boolean _ :: _ | .moment :: _
  | .array _ :: _ => by
    rw [childNodes]
    · exact raisesOnly_error (.of _ source "" _)
    · exact nofun

end

theorem raisesOnly_notesOf (entries : Toml.Table) (value : Toml.Value) :
    RaisesOnly (Refuses source value) (notesOf source entries) := by
  unfold notesOf
  split
  · exact raisesOnly_ok _
  · exact raisesOnly_ok _
  · split
    · exact raisesOnly_ok _
    · exact raisesOnly_error (.of _ source licenseTag _)

theorem raisesOnly_ofLicense (entries : Toml.Table) :
    RaisesOnly (Refuses source (.table entries)) (ofLicense source entries) := by
  have hgiven : licenseAttributes.filterMap (fun key ↦
      (Toml.Table.get? entries key).map fun value ↦ (key, value)) ⊆ entries := by
    intro entry hentry
    obtain ⟨key, _, hget⟩ := List.mem_filterMap.mp hentry
    obtain ⟨value, hvalue, rfl⟩ := Option.map_eq_some_iff.mp hget
    exact Toml.Table.mem_of_get? hvalue
  have hmatcher {value : Toml.Value} (hvalue : Toml.Table.get? entries "matcher" = some value) :
      RaisesOnly (Refuses source (.table entries)) (do
        ofMatcher source (← tableOf source "license matcher" value)) := by
    have hread (table : Toml.Table) :=
      raisesOnly_ofMatcherTable fun kind ↦ @raisesOnly_childrenIn source kind table
    exact (raisesOnly_tableOf_bind hread value).mono
      fun _ ↦ Refuses.table (Toml.Table.mem_of_get? hvalue)
  simp only [ofLicense]
  refine RaisesOnly.bind ?_ fun attributes _ ↦ ?_
  · exact (raisesOnly_attributesOf _).mono fun _ ↦ Refuses.table_mono hgiven
  · split
    · exact raisesOnly_error (.of _ source licenseTag _)
    · refine (raisesOnly_notesOf entries _).bind fun notes _ ↦ ?_
      split
      · exact raisesOnly_ok _
      · next value hvalue =>
        rw [← bind_assoc]
        exact (hmatcher hvalue).bind fun _ _ ↦ raisesOnly_ok _

end Node

theorem raisesOnly_membersOf {Member : Type} (cause : Cause)
    (read : Toml.Value → Option (List Member)) (entries : Toml.Table) (value : Toml.Value) :
    RaisesOnly (Refuses source value) (membersOf source key cause read entries) := by
  unfold membersOf
  split
  · exact raisesOnly_ok _
  · split
    · exact raisesOnly_ok _
    · exact raisesOnly_error (.of _ source "" _)

/-- The members of an array that a key of a table holds are below the table. -/
theorem Refuses.of_membersOf {cause : Cause} {entries : Toml.Table} {items : List Toml.Value}
    {fault : Fault} (hitems : membersOf source key cause Toml.Value.array? entries = .ok items)
    (hrefuses : Refuses source (.array items) fault) : Refuses source (.table entries) fault := by
  unfold membersOf at hitems
  split at hitems
  · cases hitems
    exact hrefuses.imp_right (And.imp_right (nomatch ·))
  · next value hvalue =>
    split at hitems
    · next members hmembers =>
      cases hitems
      cases value <;> cases hmembers
      exact hrefuses.table (Toml.Table.mem_of_get? hvalue)
    · cases hitems

/-- Tables are refused by the name of their source, unless an integer in them has more digits than
are written. -/
theorem Document.raisesOnly_ofTable (entries : Toml.Table) :
    RaisesOnly (Refuses source (.table entries)) (Document.ofTable source entries) := by
  have hitems (items : List Toml.Value) (what : String) (read : Toml.Table → Except Fault Node)
      (hread : ∀ entries, RaisesOnly (Refuses source (.table entries)) (read entries)) :
      RaisesOnly (Refuses source (.array items))
        (items.mapM fun value ↦ do read (← tableOf source what value)) :=
    raisesOnly_mapM fun value hvalue ↦
      (raisesOnly_tableOf_bind hread value).mono fun _ ↦ Refuses.array hvalue
  have hkind (entries : Toml.Table) :
      RaisesOnly (Refuses source (.table entries)) (Node.ofMatcherKind source entries) :=
    (raisesOnly_attributesOf entries).bind fun _ _ ↦ raisesOnly_ok _
  simp only [Document.ofTable]
  refine (raisesOnly_membersOf _ _ entries _).bind fun licenses hlicenses ↦ ?_
  refine (raisesOnly_membersOf _ _ entries _).bind fun approved _ ↦ ?_
  refine (raisesOnly_membersOf _ _ entries _).bind fun matchers hmatchers ↦ ?_
  refine RaisesOnly.bind ?_ fun licenseNodes _ ↦ RaisesOnly.bind ?_ fun _ _ ↦ raisesOnly_ok _
  · exact (hitems licenses _ _ Node.raisesOnly_ofLicense).mono fun _ ↦ .of_membersOf hlicenses
  · exact (hitems matchers _ _ hkind).mono fun _ ↦ .of_membersOf hmatchers

/-! ### Elements -/

namespace Xml

/-- A document in bytes declares the name of an encoding. Up to there it is read in the encoding
that its first bytes tell. -/
def Declares (bytes : Bytes) (found : Charset) (name : List Char) : Prop :=
  ∃ body declaration length, Charset.detect bytes = some (found, body) ∧
    declaration? (found.preview body) = some (declaration, length) ∧
    declaration.encoding = some name

/-- Why a document is refused for the encoding that it declares. -/
inductive RefusesEncoding (bytes : Bytes) : Refusal → Prop
  | unknown {found : Charset} {name : List Char} (hdeclares : Declares bytes found name)
    (hunknown : found.declared name = .unknown) : RefusesEncoding bytes .unknownEncoding
  | fails {found : Charset} {name : List Char} {fault : ValueFault}
    (hdeclares : Declares bytes found name) (hfails : found.declared name = .fails fault) :
    RefusesEncoding bytes (.encodingFails fault)

/-- A document is refused as malformed or for the encoding that it declares. -/
theorem parse_eq_error_iff {bytes : Bytes} (refusal : Refusal) (hrefusal : refusal ≠ .malformed) :
    parse false bytes = .error refusal ↔ RefusesEncoding bytes refusal := by
  constructor
  · intro hparse
    rw [parse] at hparse
    split at hparse
    · cases hparse
      exact absurd rfl hrefusal
    · next found body hdetect =>
      split at hparse
      · cases hparse
        exact absurd rfl hrefusal
      · next declaration length hdeclaration =>
        rcases hname : declaration.encoding with _ | name
        · simp only [hname] at hparse
          split at hparse <;> cases hparse
          exact absurd rfl hrefusal
        · have hdeclares : Declares bytes found name :=
            ⟨body, declaration, length, hdetect, hdeclaration, hname⟩
          simp only [hname] at hparse
          split at hparse
          · next hunknown =>
            cases hparse
            exact .unknown hdeclares hunknown
          · next hfails =>
            cases hparse
            exact .fails hdeclares hfails
          · cases hparse
            exact absurd rfl hrefusal
          · split at hparse <;> cases hparse
            exact absurd rfl hrefusal
  · intro hrefuses
    cases hrefuses with
    | unknown hdeclares hunknown =>
      obtain ⟨body, declaration, length, hdetect, hdeclaration, hname⟩ := hdeclares
      rw [parse, hdetect]
      dsimp only
      rw [hdeclaration]
      simp only [hname, hunknown]
    | fails hdeclares hfails =>
      obtain ⟨body, declaration, length, hdetect, hdeclaration, hname⟩ := hdeclares
      rw [parse, hdetect]
      dsimp only
      rw [hdeclaration]
      simp only [hname, hfails]

end Xml

/-! ### Sources -/

namespace Source

variable {tree : FileTree} {address : String}

/-- What breaks where the bytes at an address are asked for: the request is refused before it is
sent, the exchange fails, or the host of a file that is there cannot be looked up. -/
inductive Breaks (tree : FileTree) (address : String) : Crash → Prop
  | request (hremote : Address.isRemote address = true)
    (hinvalid : Address.request address = .invalid) : Breaks tree address .requestInvalid
  | exchange {className : String} (hremote : Address.isRemote address = true)
    (hsent : Address.request address = .sent)
    (hanswer : tree.network.answer address = .failure className) :
    Breaks tree address (.failure className)
  | host {target : Address.Place} {node : FileNode} {crash : Crash}
    (hremote : Address.isRemote address = false) (htarget : Address.file? address = some target)
    (hfind : tree.find target.path = .ok node)
    (hkind : target.isDirectory = true → node.isDirectory = true)
    (hhost : Address.isOwn tree.network target.host = .error crash) : Breaks tree address crash

/-- Asking another machine breaks as it is listed, and in no other way. -/
theorem fetch?_eq_error_iff {fault : Fault} (hremote : Address.isRemote address = true) :
    fetch? tree.network address = .error fault ↔
      ∃ crash, Breaks tree address crash ∧ fault = .crash crash := by
  constructor
  · intro hfetch
    unfold fetch? at hfetch
    split at hfetch
    · next hinvalid =>
      cases hfetch
      exact ⟨_, .request hremote hinvalid, rfl⟩
    · cases hfetch
    · next hsent =>
      split at hfetch
      · cases hfetch
      · cases hfetch
      · next hanswer =>
        cases hfetch
        exact ⟨_, .exchange hremote hsent hanswer, rfl⟩
  · rintro ⟨crash, hbreaks, rfl⟩
    cases hbreaks with
    | request _ hinvalid => rw [fetch?, hinvalid]
    | exchange _ hsent hanswer =>
      rw [fetch?, hsent]
      simp only [hanswer]
    | host hlocal => cases hremote.symm.trans hlocal

/-- Opening a file breaks as it is listed, and in no other way. -/
theorem openFile?_eq_error_iff {fault : Fault} (hremote : Address.isRemote address = false) :
    openFile? tree address = .error fault ↔
      ∃ crash, Breaks tree address crash ∧ fault = .crash crash := by
  constructor
  · intro hopen
    unfold openFile? at hopen
    split at hopen
    · cases hopen
    · next target htarget =>
      split at hopen
      · cases hopen
      · next node hfind =>
        split at hopen
        · cases hopen
        · next hkind =>
          split at hopen
          · next hhost =>
            cases hopen
            exact ⟨_, .host hremote htarget hfind (by simpa using hkind) hhost, rfl⟩
          · cases hopen
          · cases hopen
  · rintro ⟨crash, hbreaks, rfl⟩
    cases hbreaks with
    | request hother => cases hremote.symm.trans hother
    | exchange hother => cases hremote.symm.trans hother
    | host _ htarget hfind hkind hhost =>
      rw [openFile?, htarget]
      simp only [hfind]
      rw [if_neg (by simpa using hkind), hhost]

/-- Reading a source breaks only if it is an address, as it is listed for one. -/
theorem read?_eq_error_iff {source : Source} {fault : Fault} :
    source.read? tree = .error fault ↔ ∃ address crash, source = .name address ∧
      Address.isAddress address = true ∧ Breaks tree address crash ∧ fault = .crash crash := by
  cases source with
  | place path => exact ⟨nofun, nofun⟩
  | name text =>
    have hlisted : (∃ address crash, name text = .name address ∧
        Address.isAddress address = true ∧ Breaks tree address crash ∧ fault = .crash crash) ↔
        Address.isAddress text = true ∧ ∃ crash, Breaks tree text crash ∧ fault = .crash crash := by
      constructor
      · rintro ⟨_, crash, ⟨⟩, haddress, hbreaks, rfl⟩
        exact ⟨haddress, crash, hbreaks, rfl⟩
      · rintro ⟨haddress, crash, hbreaks, rfl⟩
        exact ⟨text, crash, rfl, haddress, hbreaks, rfl⟩
    rw [hlisted, read?]
    by_cases haddress : Address.isAddress text = true
    · rw [if_neg (by simpa using haddress), and_iff_right haddress]
      by_cases hremote : Address.isRemote text = true
      · rw [if_pos hremote, fetch?_eq_error_iff hremote]
      · rw [if_neg hremote, openFile?_eq_error_iff (by simpa using hremote)]
    · rw [if_pos (by simpa using haddress)]
      exact ⟨nofun, fun hrefused ↦ absurd hrefused.1 haddress⟩

end Source

/-! ### Documents -/

namespace Document

/-- What reading a document becomes where it becomes neither a document nor a configuration error
that names its source. -/
inductive Evades (tree : FileTree) (source : Source) : Fault → Prop
  | address {refusal : ValueFault} (haddress : Address.isAddress source.text = true)
    (hpath : Address.path source.text = .error refusal) : Evades tree source (.value refusal)
  | reading {format : Format} {name : String} {crash : Crash} (hname : source = .name name)
    (haddress : Address.isAddress name = true) (hformat : Format.ofName name = .ok format)
    (hbreaks : Source.Breaks tree name crash) : Evades tree source (.crash crash)
  | encoding {bytes : Bytes} (hformat : Format.ofName source.text = .ok .xml)
    (hread : source.read? tree = .ok (some bytes))
    (hrefuses : Xml.RefusesEncoding bytes .unknownEncoding) :
    Evades tree source (.crash .encodingUnknown)
  | encodingFails {bytes : Bytes} {refusal : ValueFault}
    (hformat : Format.ofName source.text = .ok .xml)
    (hread : source.read? tree = .ok (some bytes))
    (hrefuses : Xml.RefusesEncoding bytes (.encodingFails refusal)) :
    Evades tree source (.value refusal)
  | numberRead {bytes : Bytes} {characters : List Char} {digits : Nat}
    (hformat : Format.ofName source.text = .ok .toml) (hread : source.read? tree = .ok (some bytes))
    (hdecode : decodeUtf8? bytes = some characters)
    (hparse : Toml.parse characters = .error (.numberTooLong digits)) :
    Evades tree source (.value (.numberTooLong digits))
  | numberWritten {bytes : Bytes} {characters : List Char} {entries : Toml.Table}
    (hformat : Format.ofName source.text = .ok .toml) (hread : source.read? tree = .ok (some bytes))
    (hdecode : decodeUtf8? bytes = some characters)
    (hparse : Toml.parse characters = .ok entries)
    (hrefused : ofTable source.text entries = .error (.value .numberTooLongToWrite)) :
    Evades tree source (.value .numberTooLongToWrite)

variable {tree : FileTree} {source : Source} {fault : Fault}

theorem not_names_of_evades (hevades : Evades tree source fault) (name : String) :
    ¬fault.Names name := by
  cases hevades with
  | reading | encoding => exact Fault.not_names_crash _ name
  | address | encodingFails | numberRead | numberWritten => exact Fault.not_names_value _ name

/-- An ending is only refused where the host of an address is. -/
theorem suffixOf_eq_error_iff {name : String} :
    suffixOf name = .error fault ↔ Address.isAddress name = true ∧
      ∃ refusal, Address.path name = .error refusal ∧ fault = .value refusal := by
  rw [suffixOf]
  by_cases haddress : Address.isAddress name = true
  · rw [if_pos haddress, and_iff_right haddress]
    cases hpath : Address.path name with
    | error refusal =>
      constructor
      · intro hrefused
        cases hrefused
        exact ⟨refusal, rfl, rfl⟩
      · rintro ⟨_, ⟨⟩, rfl⟩
        rfl
    | ok path => exact ⟨nofun, fun ⟨_, hpath, _⟩ ↦ nomatch hpath⟩
  · rw [if_neg haddress]
    exact ⟨nofun, fun hrefused ↦ absurd hrefused.1 haddress⟩

theorem ofName_of_suffixOf {name : String} (hrefused : suffixOf name = .error fault) :
    Format.ofName name = .error fault := by
  rw [Format.ofName, hrefused]
  rfl

/-- A name without a format is refused by itself, unless the host of an address is. -/
theorem names_or_of_ofName {name : String} (hrefused : Format.ofName name = .error fault) :
    fault.Names name ∨ suffixOf name = .error fault := by
  rw [Format.ofName] at hrefused
  cases hsuffix : suffixOf name with
  | error refused =>
    rw [hsuffix] at hrefused
    cases hrefused
    exact .inr rfl
  | ok suffix =>
    rw [hsuffix, ok_bind] at hrefused
    split at hrefused
    · cases hrefused
    · cases hrefused
      exact .inl (Fault.names_of _ name "")

/-- How a document is read whose name has a format and leads to bytes. -/
theorem load_eq {format : Format} {bytes : Bytes} (hformat : Format.ofName source.text = .ok format)
    (hread : source.read? tree = .ok (some bytes)) :
    load tree source = (parse format source.text (.bytes bytes)).map fun document ↦
      (document, document.loaded source.text format) := by
  rw [load, hformat, ok_bind, hread, ok_bind]
  dsimp only
  cases parse format source.text (.bytes bytes) <;> rfl

/-- A document in TOML that is text is refused for what is written or for what it says. -/
theorem parseToml_eq {name : String} {bytes : Bytes} {characters : List Char}
    (hdecode : decodeUtf8? bytes = some characters) :
    parseToml name (.bytes bytes) = (tomlTable name characters >>= ofTable name) := by
  simp only [parseToml, hdecode]
  rfl

/-- What is listed is raised as it is listed. -/
theorem load_of_evades (hevades : Evades tree source fault) : load tree source = .error fault := by
  cases hevades with
  | address haddress hpath =>
    have hsuffix := suffixOf_eq_error_iff.mpr ⟨haddress, _, hpath, rfl⟩
    rw [load, ofName_of_suffixOf hsuffix]
    rfl
  | reading hname haddress hformat hbreaks =>
    subst hname
    have hread := Source.read?_eq_error_iff.mpr ⟨_, _, rfl, haddress, hbreaks, rfl⟩
    rw [load, Source.text, hformat, ok_bind, hread]
    rfl
  | encoding hformat hread hrefuses =>
    rw [load_eq hformat hread, map_eq_error_iff, parse, parseXml]
    simp only [(Xml.parse_eq_error_iff .unknownEncoding nofun).mpr hrefuses]
  | encodingFails hformat hread hrefuses =>
    rw [load_eq hformat hread, map_eq_error_iff, parse, parseXml]
    simp only [(Xml.parse_eq_error_iff (.encodingFails _) nofun).mpr hrefuses]
  | numberRead hformat hread hdecode hparse =>
    rw [load_eq hformat hread, map_eq_error_iff, parse, parseToml_eq hdecode, tomlTable, hparse]
    rfl
  | numberWritten hformat hread hdecode hparse hrefused =>
    rw [load_eq hformat hread, map_eq_error_iff, parse, parseToml_eq hdecode, tomlTable, hparse]
    exact hrefused

/-- A document that is not read is refused by the name of its source, unless it is among what is
listed. -/
theorem names_or_evades_of_load (hload : load tree source = .error fault) :
    fault.Names source.text ∨ Evades tree source fault := by
  rcases hformat : Format.ofName source.text with refused | format
  · rw [load, hformat] at hload
    cases hload
    refine (names_or_of_ofName hformat).imp_right fun hsuffix ↦ ?_
    obtain ⟨haddress, refusal, hpath, rfl⟩ := suffixOf_eq_error_iff.mp hsuffix
    exact .address haddress hpath
  rcases hread : source.read? tree with refused | _ | bytes
  · obtain ⟨name, crash, rfl, haddress, hbreaks, rfl⟩ := Source.read?_eq_error_iff.mp hread
    rw [load, hformat, ok_bind, hread] at hload
    cases hload
    exact .inr (.reading rfl haddress hformat hbreaks)
  · rw [load, hformat, ok_bind, hread] at hload
    cases hload
    exact .inl (Fault.names_of _ _ _)
  rw [load_eq hformat hread, map_eq_error_iff] at hload
  cases format with
  | xml =>
    rw [parse, parseXml] at hload
    split at hload
    · cases hload
    · cases hload
      exact .inl (Fault.names_of _ _ _)
    · next hparse =>
      cases hload
      have hrefuses := (Xml.parse_eq_error_iff .unknownEncoding nofun).mp hparse
      exact .inr (.encoding hformat hread hrefuses)
    · next hparse =>
      cases hload
      have hrefuses := (Xml.parse_eq_error_iff (.encodingFails _) nofun).mp hparse
      exact .inr (.encodingFails hformat hread hrefuses)
  | toml =>
    rcases hdecode : decodeUtf8? bytes with _ | characters
    · rw [parse, parseToml] at hload
      simp only [hdecode] at hload
      cases hload
      exact .inl (Fault.names_of _ _ _)
    rw [parse, parseToml_eq hdecode, tomlTable] at hload
    rcases hparse : Toml.parse characters with (_ | digits) | entries
    · rw [hparse] at hload
      cases hload
      exact .inl (Fault.names_of _ _ _)
    · rw [hparse] at hload
      cases hload
      exact .inr (.numberRead hformat hread hdecode hparse)
    · rw [hparse] at hload
      refine (raisesOnly_ofTable entries fault hload).imp_right ?_
      rintro ⟨rfl, _⟩
      exact .numberWritten hformat hread hdecode hparse hload

/-- A document is read as it is meant to be exactly if its source is not among what is listed. -/
theorem isProper_load_iff :
    IsProper source.text (load tree source) ↔ ∀ fault, ¬Evades tree source fault :=
  isProper_iff (fun _ ↦ load_of_evades) (fun _ hevades ↦ not_names_of_evades hevades _)
    fun _ ↦ names_or_evades_of_load

end Document

end LicenseHeaders
