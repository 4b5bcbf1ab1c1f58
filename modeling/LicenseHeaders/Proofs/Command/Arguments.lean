import LicenseHeaders.Command.Arguments
import LicenseHeaders.Proofs.Effects

/-!
# Command lines with another task

The words in front of the name of a task are read without regard to what stands behind it
(`readWords_cons`), so a command line can be given another task with the same choices
(`exists_task_of_readWords`). In particular, a command line that checks files has one beside it that
checks a single one of them (`exists_parse_alone`).
-/

set_option autoImplicit false
set_option relaxedAutoImplicit false

namespace LicenseHeaders.Command

/-! ### Words -/

namespace Word

theorem classifyAll_cons_eq_some_iff {switches : List Switch} {text : String} (htext : text ≠ "--")
    {rest : List String} {classified : List (String × Word)} :
    classifyAll switches (text :: rest) = some classified ↔
      ∃ word others, classify switches text.toList = some word ∧
        classifyAll switches rest = some others ∧ classified = (text, word) :: others := by
  rw [classifyAll]
  · simp only [bind, Option.bind_eq_some_iff, pure, Option.some.injEq, exists_and_left,
      @eq_comm _ classified]
  · exact htext

/-- A word that does not start with a dash stands for itself. -/
theorem classify_of_head?_ne {word : List Char} (hword : word.head? ≠ some '-')
    (switches : List Switch) : classify switches word = some .plain :=
  if_pos (bne_iff_ne.mpr hword)

/-- Words keep their texts. -/
theorem map_fst_of_classifyAll {switches : List Switch} {words : List String}
    {classified : List (String × Word)}
    (hclassified : classifyAll switches words = some classified) :
    classified.map (·.1) = words := by
  induction words generalizing classified with
  | nil =>
    cases hclassified
    rfl
  | cons text rest ih =>
    by_cases htext : text = "--"
    · subst htext
      cases hclassified
      rw [List.map_cons, List.map_map]
      exact congrArg _ rest.map_id
    · obtain ⟨word, others, -, hothers, rfl⟩ :=
        (classifyAll_cons_eq_some_iff htext).mp hclassified
      rw [List.map_cons, ih hothers]

end Word

/-! ### What stands in front of a task -/

/-- A word that does not name the task is refused, or it is taken in and the words behind it are
read as they are otherwise. -/
theorem readWords_cons {due : Option Flag} {word : Word} (hfront : ¬(due = none ∧ word = .plain))
    (choices : Choices) (hasExtra : Bool) (text : String) :
    (∃ refusal, ∀ rest, readWords choices due hasExtra ((text, word) :: rest) = .error refusal) ∨
      ∃ choices' due' hasExtra', ∀ rest,
        readWords choices due hasExtra ((text, word) :: rest) =
          readWords choices' due' hasExtra' rest := by
  cases due with
  | none =>
    cases word with
    | plain => exact absurd ⟨rfl, rfl⟩ hfront
    | divider | surplus => exact .inl ⟨.misuse, fun _ ↦ rfl⟩
    | unknown => exact .inr ⟨choices, none, true, fun _ ↦ rfl⟩
    | flags flags =>
      rcases htake : choices.take flags with refusal | taken
      · exact .inl ⟨refusal, fun rest ↦ by simp only [readWords, htake]; rfl⟩
      · exact .inr ⟨taken, none, hasExtra, fun rest ↦ by simp only [readWords, htake, ok_bind]⟩
    | awaiting flags last =>
      rcases htake : choices.take flags with refusal | taken
      · exact .inl ⟨refusal, fun rest ↦ by simp only [readWords, htake]; rfl⟩
      · exact .inr ⟨taken, some last, hasExtra, fun rest ↦ by
          simp only [readWords, htake, ok_bind]⟩
    | setting flags last value =>
      rcases htake : choices.take flags with refusal | taken
      · exact .inl ⟨refusal, fun rest ↦ by simp only [readWords, htake]; rfl⟩
      · by_cases hvalue : value = "--"
        · exact .inl ⟨.value .noOptionValue, fun rest ↦ by
            simp only [readWords, htake, ok_bind, hvalue, if_true]; rfl⟩
        · rcases hgiven : taken.takeValue last value with refusal | given
          · exact .inl ⟨refusal, fun rest ↦ by
              simp only [readWords, htake, ok_bind, hvalue, if_false, hgiven]; rfl⟩
          · exact .inr ⟨given, none, hasExtra, fun rest ↦ by
              simp only [readWords, htake, ok_bind, hvalue, if_false, hgiven]⟩
  | some flag =>
    cases word with
    | plain =>
      rcases hgiven : choices.takeValue flag text with refusal | given
      · exact .inl ⟨refusal, fun rest ↦ by simp only [readWords, hgiven]; rfl⟩
      · exact .inr ⟨given, none, hasExtra, fun rest ↦ by simp only [readWords, hgiven, ok_bind]⟩
    | _ => exact .inl ⟨.misuse, fun _ ↦ rfl⟩

/-- Words that are read name a task, and with other words behind its name they are read with the
task that these ask for. -/
theorem exists_task_of_readWords {words : List String} {classified : List (String × Word)}
    {choices : Choices} {due : Option Flag} {hasExtra : Bool} {arguments : Arguments}
    (hclassified : Word.classifyAll mainSwitches words = some classified)
    (hread : readWords choices due hasExtra classified = .ok arguments) :
    ∃ front name behind, words = front ++ name :: behind ∧
      Task.ofWords name behind = .ok (arguments.task, false) ∧
      ∀ others classifiedOthers task,
        Word.classifyAll mainSwitches others = some classifiedOthers →
        Task.ofWords name others = .ok (task, false) →
        ∃ exchanged, Word.classifyAll mainSwitches (front ++ name :: others) = some exchanged ∧
          readWords choices due hasExtra exchanged = .ok { arguments with task } := by
  induction words generalizing classified choices due hasExtra with
  | nil =>
    cases hclassified
    cases hread
  | cons text rest ih =>
    by_cases htext : text = "--"
    · subst htext
      cases hclassified
      cases due <;> cases hread
    · obtain ⟨word, others, hword, hothers, rfl⟩ :=
        (Word.classifyAll_cons_eq_some_iff htext).mp hclassified
      by_cases hnames : due = none ∧ word = .plain
      · obtain ⟨rfl, rfl⟩ := hnames
        obtain ⟨⟨task, hasMore⟩, htask, hread⟩ := bind_eq_ok_iff.mp hread
        rw [Word.map_fst_of_classifyAll hothers] at htask
        dsimp only at hread
        split at hread
        · cases hread
        · cases hread
          have hneither : hasExtra = false ∧ hasMore = false :=
            Bool.or_eq_false_iff.mp (Bool.eq_false_of_not_eq_true ‹_›)
          obtain ⟨rfl, rfl⟩ := hneither
          refine ⟨[], text, rest, rfl, htask, fun words classifiedWords task hwords hof ↦ ?_⟩
          refine ⟨(text, .plain) :: classifiedWords,
            (Word.classifyAll_cons_eq_some_iff htext).mpr
              ⟨.plain, classifiedWords, hword, hwords, rfl⟩, ?_⟩
          rw [readWords, Word.map_fst_of_classifyAll hwords, hof]
          rfl
      · rcases readWords_cons hnames choices hasExtra text with
          ⟨refusal, hrefused⟩ | ⟨choices', due', hasExtra', htaken⟩
        · cases (hrefused others).symm.trans hread
        · rw [htaken] at hread
          obtain ⟨front, name, behind, rfl, htask, hexchange⟩ := ih hothers hread
          refine ⟨text :: front, name, behind, rfl, htask,
            fun words classifiedWords task hwords hof ↦ ?_⟩
          obtain ⟨exchanged, hexchanged, hreads⟩ := hexchange words classifiedWords task hwords hof
          exact ⟨(text, word) :: exchanged,
            (Word.classifyAll_cons_eq_some_iff htext).mpr ⟨word, exchanged, hword, hexchanged, rfl⟩,
            (htaken exchanged).trans hreads⟩

/-! ### Checking one file -/

theorem exists_names_of_ofWords {name : String} {words : List String} {files : List Path}
    {json hasMore : Bool} (hof : Task.ofWords name words = .ok (.check files json, hasMore)) :
    name = "check" ∧ ∃ names : List String, files = names.map Path.ofText := by
  unfold Task.ofWords at hof
  split at hof
  · obtain ⟨state, -, hstate⟩ := bind_eq_ok_iff.mp hof
    cases hstate
    exact ⟨rfl, _, rfl⟩
  · obtain ⟨state, -, hstate⟩ := bind_eq_ok_iff.mp hof
    cases hstate
  · cases hof

/-- The words of a check of one file, whatever the file is called. -/
theorem ofWords_one (name : String) :
    Task.ofWords "check" ["--json", "--", name] = .ok (.check [.ofText name] true, false) :=
  rfl

/-- Beside a command line that checks files there is one that checks a single one of them and makes
the same choices. -/
theorem exists_parse_alone {words : List String} {choices : Choices} {files : List Path}
    (hparse : Arguments.parse words = .ok ⟨choices, .check files true⟩) {file : Path}
    (hfile : file ∈ files) :
    ∃ front behind name, words = front ++ "check" :: behind ∧ file = Path.ofText name ∧
      Arguments.parse (front ++ ["check", "--json", "--", name]) =
        .ok ⟨choices, .check [file] true⟩ := by
  unfold Arguments.parse at hparse
  split at hparse
  · obtain ⟨front, task, behind, rfl, htask, hexchange⟩ := exists_task_of_readWords ‹_› hparse
    obtain ⟨rfl, names, rfl⟩ := exists_names_of_ofWords htask
    obtain ⟨name, -, rfl⟩ := List.mem_map.mp hfile
    have hclassified : Word.classifyAll mainSwitches ["--json", "--", name] =
        some [("--json", .flags [.jsonLog]), ("--", .divider), (name, .plain)] := rfl
    obtain ⟨exchanged, hexchanged, hread⟩ := hexchange _ _ _ hclassified (ofWords_one name)
    refine ⟨front, behind, name, rfl, rfl, ?_⟩
    simp only [Arguments.parse, hexchanged]
    exact hread
  · cases hparse

end LicenseHeaders.Command
