import LicenseHeaders.Regex.Match
import Mathlib.Computability.Language

/-!
# The language of a pattern

A search tries the ways of a pattern in order and goes back where what comes after does not match.
Of a pattern that only reads characters, that order matters for nothing but for what its groups
keep. `Reads` says this of a search and a language: the search succeeds exactly if some text of the
language stands at the place and what comes after succeeds behind it. It is said for what comes
after only where that is `Blind` to what the groups have kept.

Each way to build a pattern has its operation on languages: the empty text, one character, one after
another (`reads_seq`), alternatives (`reads_alt`), groups (`reads_group`) and eager repetition
(`reads_repeated`), where the repeated pattern must not match the empty text. At the start of a text
such a pattern matches exactly if some text of its language starts the text
(`matchesStart_iff_of_reads`).
-/

set_option autoImplicit false
set_option relaxedAutoImplicit false

namespace LicenseHeaders.Regex

open scoped Computability

/-! ### Searches and languages -/

/-- The place after reading a text, with the rest of the text behind it. -/
def Place.past (place : Place) (read rest : List Char) : Place :=
  { place with before := read.reverse ++ place.before, rest := rest }

/-- Whether something can be matched behind a place depends on the text around the place and not on
what was kept on the way. -/
def Blind (next : Continuation) : Prop :=
  ∀ first second : Place, first.before = second.before → first.rest = second.rest →
    ((next first).isSome = true ↔ (next second).isSome = true)

/-- A search succeeds exactly if a text of the language stands at the place and what comes after
succeeds behind it. -/
def Reads (search : Search) (language : Language Char) : Prop :=
  ∀ place next, Blind next →
    ((search place next).isSome = true ↔
      ∃ read ∈ language, ∃ rest, place.rest = read ++ rest ∧
        (next (place.past read rest)).isSome = true)

section Reads

variable {search round : Search} {language : Language Char} {next : Continuation}

theorem blind_some : Blind some :=
  fun _ _ _ _ ↦ Iff.rfl

/-- A search that is followed by something blind is blind to what was kept before it. -/
theorem blind_of_reads (hreads : Reads search language) (hblind : Blind next) :
    Blind fun reached ↦ search reached next := by
  intro first second hbefore hrest
  rw [hreads first next hblind, hreads second next hblind, hrest]
  refine exists_congr fun read ↦ and_congr_right fun _ ↦ exists_congr fun rest ↦
    and_congr_right fun _ ↦ hblind _ _ ?_ rfl
  rw [Place.past, Place.past, hbefore]

/-- One search after another reads a text of the one and then a text of the other. -/
theorem reads_bind {second : Search} {other : Language Char} (hfirst : Reads search language)
    (hsecond : Reads second other) :
    Reads (fun place next ↦ search place fun reached ↦ second reached next)
      (language * other) := by
  intro place next hblind
  rw [hfirst place _ (blind_of_reads hsecond hblind)]
  constructor
  · rintro ⟨read, hread, rest, hrest, hmore⟩
    obtain ⟨more, hother, behind, hbehind, hnext⟩ := (hsecond _ _ hblind).mp hmore
    refine ⟨read ++ more, Language.append_mem_mul hread hother, behind, ?_, ?_⟩
    · rw [hrest, List.append_assoc]
      exact congrArg (read ++ ·) hbehind
    · simpa only [Place.past, List.reverse_append, List.append_assoc] using hnext
  · rintro ⟨_, htext, behind, hbehind, hnext⟩
    obtain ⟨read, hread, more, hother, rfl⟩ := Language.mem_mul.mp htext
    refine ⟨read, hread, more ++ behind, by rw [hbehind, List.append_assoc], ?_⟩
    rw [hsecond _ _ hblind]
    refine ⟨more, hother, behind, rfl, ?_⟩
    simpa only [Place.past, List.reverse_append, List.append_assoc] using hnext

theorem orElse_isSome (attempt : Option Place) (other : Unit → Option Place) :
    (orElse attempt other).isSome = true ↔ attempt.isSome = true ∨ (other ()).isSome = true := by
  cases attempt with
  | none => exact ⟨.inr, fun h ↦ h.resolve_left nofun⟩
  | some place => exact iff_of_true rfl (.inl rfl)

/-- One search or, failing that, another reads a text of either. -/
theorem reads_orElse {second : Search} {other : Language Char} (hfirst : Reads search language)
    (hsecond : Reads second other) :
    Reads (fun place next ↦ orElse (search place next) fun _ ↦ second place next)
      (language + other) := by
  intro place next hblind
  rw [orElse_isSome, hfirst place next hblind, hsecond place next hblind, ← exists_or]
  refine exists_congr fun read ↦ ?_
  rw [Language.mem_add, or_and_right]

/-- A search that reads the empty text only goes on at the same place. -/
theorem reads_one : Reads (fun place next ↦ next place) 1 := by
  intro place next hblind
  constructor
  · exact fun hnext ↦ ⟨[], Language.nil_mem_one, place.rest, rfl, hnext⟩
  · rintro ⟨read, hread, rest, hrest, hnext⟩
    rw [Language.mem_one] at hread
    subst hread
    exact (hblind (place.past [] rest) place rfl hrest.symm).mp hnext

/-- A given number of rounds reads as many texts of the language. -/
theorem reads_rounds (hround : Reads round language) (count : Nat) :
    Reads (rounds round count) (language ^ count) := by
  induction count with
  | zero => exact reads_one
  | succ count ih =>
    rw [pow_succ']
    have hbind := reads_bind hround ih
    exact hbind

/-- What comes after a search matters only behind the texts that the search reads. -/
theorem isSome_congr_of_reads {other : Continuation} {place : Place}
    (hreads : Reads search language) (hnext : Blind next) (hother : Blind other)
    (halike : ∀ read ∈ language, ∀ rest,
      ((next (place.past read rest)).isSome = true ↔
        (other (place.past read rest)).isSome = true)) :
    (search place next).isSome = true ↔ (search place other).isSome = true := by
  rw [hreads place next hnext, hreads place other hother]
  exact exists_congr fun read ↦ and_congr_right fun hread ↦ exists_congr fun rest ↦
    and_congr_right fun _ ↦ halike read hread rest

/-- The texts made of as many texts of a language as lie between two bounds. -/
def between (least : Nat) (most : Option Nat) (language : Language Char) : Language Char :=
  {text | ∃ count, least ≤ count ∧ (∀ bound ∈ most, count ≤ bound) ∧ text ∈ language ^ count}

theorem mem_between {least : Nat} {most : Option Nat} {text : List Char} :
    text ∈ between least most language ↔
      ∃ count, least ≤ count ∧ (∀ bound ∈ most, count ≤ bound) ∧ text ∈ language ^ count :=
  Iff.rfl

theorem between_zero : between 0 (some 0) language = 1 := by
  ext text
  rw [mem_between]
  constructor
  · rintro ⟨count, -, hcount, htext⟩
    rwa [Nat.le_zero.mp (hcount 0 rfl), pow_zero] at htext
  · exact fun htext ↦ ⟨0, le_rfl, fun _ _ ↦ Nat.zero_le _, htext⟩

theorem between_succ (count : Nat) :
    between 0 (some (count + 1)) language = language * between 0 (some count) language + 1 := by
  ext text
  simp only [Language.mem_add, Language.mem_mul, mem_between, Option.mem_some_iff, forall_eq',
    Nat.zero_le, true_and]
  constructor
  · rintro ⟨_ | rounds, hrounds, htext⟩
    · exact .inr htext
    · rw [pow_succ', Language.mem_mul] at htext
      obtain ⟨first, hfirst, rest, hrest, rfl⟩ := htext
      exact .inl ⟨first, hfirst, rest, ⟨rounds, Nat.le_of_succ_le_succ hrounds, hrest⟩, rfl⟩
  · rintro (⟨first, hfirst, rest, ⟨rounds, hrounds, hrest⟩, rfl⟩ | htext)
    · refine ⟨rounds + 1, Nat.succ_le_succ hrounds, ?_⟩
      rw [pow_succ']
      exact Language.append_mem_mul hfirst hrest
    · exact ⟨0, Nat.zero_le _, htext⟩

theorem between_none (least : Nat) :
    between least none language = language ^ least * language∗ := by
  ext text
  rw [mem_between, Language.kstar_eq_iSup_pow, Language.mul_iSup, Language.mem_iSup]
  constructor
  · rintro ⟨count, hleast, -, htext⟩
    obtain ⟨further, rfl⟩ := Nat.exists_eq_add_of_le hleast
    exact ⟨further, by rwa [← pow_add]⟩
  · rintro ⟨further, htext⟩
    exact ⟨least + further, Nat.le_add_right _ _, nofun, by rwa [pow_add]⟩

theorem between_optional : between 0 (some 1) language = 1 + language := by
  rw [between_succ, between_zero, mul_one, add_comm]

theorem between_same (count : Nat) : between count (some count) language = language ^ count := by
  ext text
  rw [mem_between]
  constructor
  · rintro ⟨rounds, hleast, hmost, htext⟩
    rwa [Nat.le_antisymm (hmost count rfl) hleast] at htext
  · exact fun htext ↦ ⟨count, le_rfl, fun bound hbound ↦ by cases hbound; exact le_rfl, htext⟩

/-- Further rounds read up to as many texts of the language. Assumes: none of them is empty. -/
theorem reads_eagerly (hround : Reads round language) (hempty : [] ∉ language) (count : Nat) :
    Reads (eagerly round count) (between 0 (some count) language) := by
  induction count with
  | zero =>
    rw [between_zero]
    exact reads_one
  | succ count ih =>
    rw [between_succ]
    intro place next hblind
    have hsplit := reads_orElse (reads_bind hround ih) reads_one place next hblind
    rw [← hsplit, eagerly, orElse_isSome, orElse_isSome]
    refine or_congr_left (isSome_congr_of_reads hround ?_ (blind_of_reads ih hblind) ?_)
    · intro first second hbefore hrest
      have hoffset : first.offset = second.offset := congrArg List.length hbefore
      simp only [hoffset]
      split
      · exact hblind first second hbefore hrest
      · exact blind_of_reads ih hblind first second hbefore hrest
    · -- No round reads nothing, so none ends the repetition.
      intro read hread rest
      have hmoved : (place.past read rest).offset ≠ place.offset := by
        have hlength : 0 < read.length :=
          List.length_pos_of_ne_nil fun hnil ↦ hempty (hnil ▸ hread)
        simp only [Place.offset, Place.past, List.length_append, List.length_reverse]
        omega
      rw [if_neg hmoved]

/-- A text made of non-empty texts is made of no more of them than it has characters. -/
theorem length_le_of_mem_pow (hempty : [] ∉ language) {count : Nat} {text : List Char}
    (htext : text ∈ language ^ count) : count ≤ text.length := by
  induction count generalizing text with
  | zero => exact Nat.zero_le _
  | succ count ih =>
    rw [pow_succ', Language.mem_mul] at htext
    obtain ⟨first, hfirst, rest, hrest, rfl⟩ := htext
    have hlength : 0 < first.length :=
      List.length_pos_of_ne_nil fun hnil ↦ hempty (hnil ▸ hfirst)
    have hcount := ih hrest
    rw [List.length_append]
    omega

end Reads

/-! ### Patterns and languages -/

section Patterns

variable {first second body : Pattern} {language other : Language Char}

/-- The texts of one character that passes a test. -/
def single (test : Char → Bool) : Language Char :=
  {text | ∃ c, test c = true ∧ text = [c]}

theorem nil_notMem_single (test : Char → Bool) : [] ∉ single test := by
  rintro ⟨c, -, hc⟩
  cases hc

theorem reads_empty : Reads Pattern.empty.run 1 :=
  reads_one

theorem reads_char (test : CharTest) : Reads (Pattern.one test).run (single test.accepts) := by
  intro place next _
  rw [Pattern.run]
  rcases hrest : place.rest with _ | ⟨c, rest⟩
  · refine iff_of_false nofun ?_
    rintro ⟨_, ⟨c, -, rfl⟩, rest, hcons, -⟩
    cases hcons
  · by_cases hc : test.accepts c = true
    · simp only [if_pos hc]
      constructor
      · exact fun hnext ↦ ⟨[c], ⟨c, hc, rfl⟩, rest, rfl, hnext⟩
      · rintro ⟨_, ⟨other, -, rfl⟩, behind, hcons, hnext⟩
        cases hcons
        exact hnext
    · simp only [if_neg hc]
      refine iff_of_false nofun ?_
      rintro ⟨_, ⟨other, hother, rfl⟩, behind, hcons, -⟩
      cases hcons
      exact hc hother

theorem reads_seq (hfirst : Reads first.run language) (hsecond : Reads second.run other) :
    Reads (Pattern.seq first second).run (language * other) := by
  have hbind := reads_bind hfirst hsecond
  exact hbind

theorem reads_alt (hfirst : Reads first.run language) (hsecond : Reads second.run other) :
    Reads (Pattern.alt first second).run (language + other) := by
  have horElse := reads_orElse hfirst hsecond
  exact horElse

/-- A group reads what its body reads, since what it keeps is seen by nothing that follows. -/
theorem reads_group (number : Nat) (hbody : Reads body.run language) :
    Reads (Pattern.group number body).run language := by
  intro place next hblind
  have hclosed : Blind fun reached ↦ next (reached.closed number) :=
    fun first second hbefore hrest ↦ hblind _ _ hbefore hrest
  rw [Pattern.run, hbody _ _ hclosed]
  exact exists_congr fun read ↦ and_congr_right fun _ ↦ exists_congr fun rest ↦
    and_congr_right fun _ ↦ hblind _ _ rfl rfl

/-- An eager repetition reads as many texts of the language as its bounds allow. Assumes: none of
them is empty, and the bounds are in order. -/
theorem reads_repeated (hbody : Reads body.run language) (hempty : [] ∉ language) {least : Nat}
    {most : Option Nat} (hmost : ∀ bound ∈ most, least ≤ bound) :
    Reads (Pattern.repeated .eager least most body).run (between least most language) := by
  have hfurther : Reads
      (fun place next ↦ eagerly body.run (furtherRounds least most place) place next)
      (between 0 (most.map (· - least)) language) := by
    intro place next hblind
    rw [reads_eagerly hbody hempty _ place next hblind]
    refine exists_congr fun read ↦ and_congr_left fun ⟨rest, hrest, _⟩ ↦
      exists_congr fun count ↦ and_congr_right fun _ ↦ and_congr_left fun hread ↦ ?_
    have hcount := length_le_of_mem_pow hempty hread
    have hlength : read.length ≤ place.rest.length := by
      rw [hrest, List.length_append]
      omega
    cases most with
    | none =>
      refine iff_of_true ?_ nofun
      simp only [furtherRounds, Option.mem_some_iff, forall_eq']
      omega
    | some bound =>
      simp only [furtherRounds, Option.mem_some_iff, forall_eq', Option.map_some]
      omega
  have hreads := reads_bind (reads_rounds hbody least) hfurther
  have hlanguage : language ^ least * between 0 (most.map (· - least)) language =
      between least most language := by
    ext text
    rw [Language.mem_mul, mem_between]
    constructor
    · rintro ⟨required, hrequired, further, ⟨count, -, hcount, hfurther⟩, rfl⟩
      refine ⟨least + count, Nat.le_add_right _ _, fun bound hbound ↦ ?_, ?_⟩
      · have := hcount (bound - least) (Option.mem_map_of_mem _ hbound)
        have := hmost bound hbound
        omega
      · rw [pow_add]
        exact Language.append_mem_mul hrequired hfurther
    · rintro ⟨count, hleast, hcount, htext⟩
      obtain ⟨further, rfl⟩ := Nat.exists_eq_add_of_le hleast
      rw [pow_add, Language.mem_mul] at htext
      obtain ⟨required, hrequired, more, hmore, rfl⟩ := htext
      refine ⟨required, hrequired, more,
        ⟨further, Nat.zero_le _, fun bound hbound ↦ ?_, hmore⟩, rfl⟩
      obtain ⟨most, hmost, rfl⟩ := Option.mem_map.mp hbound
      have := hcount most hmost
      omega
  rw [← hlanguage]
  exact hreads

/-- At the start of a text a pattern matches exactly if a text of its language starts the text. -/
theorem matchesStart_iff_of_reads (hreads : Reads first.run language) (text : List Char) :
    first.matchesStart text = true ↔ ∃ read ∈ language, read <+: text := by
  rw [Pattern.matchesStart, hreads _ _ blind_some]
  refine exists_congr fun read ↦ and_congr_right fun _ ↦ ?_
  constructor
  · rintro ⟨rest, hrest, -⟩
    exact ⟨rest, hrest.symm⟩
  · rintro ⟨rest, hrest⟩
    exact ⟨rest, hrest.symm, rfl⟩

end Patterns

end LicenseHeaders.Regex
