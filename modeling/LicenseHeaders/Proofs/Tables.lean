import Mathlib

/-!
# Corresponding lists and look-up tables

Small facts about lists that the other modules share: lists whose members correspond one by one,
lists from a member on, lists of keys with values that are looked up by key, and chains of steps
between the members of a list.
-/

set_option autoImplicit false
set_option relaxedAutoImplicit false

namespace LicenseHeaders

/-! ### Lists that correspond -/

/-- What stands in one of two corresponding lists corresponds to something in the other. -/
theorem exists_of_mem_of_forall₂ {Left Right : Type} {relation : Left → Right → Prop}
    {lefts : List Left} {rights : List Right} (hrelated : List.Forall₂ relation lefts rights)
    {left : Left} (hmem : left ∈ lefts) : ∃ right ∈ rights, relation left right := by
  induction hrelated with
  | nil => cases hmem
  | @cons head right rest rights hhead _ ih =>
    rcases List.mem_cons.mp hmem with rfl | hrest
    · exact ⟨right, List.mem_cons_self, hhead⟩
    · obtain ⟨other, hother, hrelated⟩ := ih hrest
      exact ⟨other, List.mem_cons_of_mem right hother, hrelated⟩

/-- Lists that correspond in one way correspond in another one if every member of the first does. -/
theorem forall₂_imp_of_mem {Left Right : Type} {first second : Left → Right → Prop}
    {lefts : List Left} {rights : List Right}
    (hevery : ∀ left ∈ lefts, ∀ right, first left right → second left right)
    (hrelated : List.Forall₂ first lefts rights) : List.Forall₂ second lefts rights := by
  induction hrelated with
  | nil => exact .nil
  | cons hhead _ ih =>
    rw [List.forall_mem_cons] at hevery
    exact .cons (hevery.1 _ hhead) (ih hevery.2)

/-- Lists correspond in two ways alike if every member of the first list does. -/
theorem forall₂_congr_of_mem {Left Right : Type} {first second : Left → Right → Prop}
    {lefts : List Left} {rights : List Right}
    (hsame : ∀ left ∈ lefts, ∀ right, first left right ↔ second left right) :
    List.Forall₂ first lefts rights ↔ List.Forall₂ second lefts rights :=
  ⟨forall₂_imp_of_mem fun left hleft right ↦ (hsame left hleft right).mp,
    forall₂_imp_of_mem fun left hleft right ↦ (hsame left hleft right).mpr⟩

/-- Lists that correspond to a third one correspond to each other if their members do. -/
theorem forall₂_of_common {Common Left Right : Type} {first : Common → Left → Prop}
    {second : Common → Right → Prop} {relation : Left → Right → Prop} {commons : List Common}
    {lefts : List Left} {rights : List Right}
    (hrelated : ∀ common ∈ commons, ∀ left right, first common left → second common right →
      relation left right)
    (hfirst : List.Forall₂ first commons lefts) (hsecond : List.Forall₂ second commons rights) :
    List.Forall₂ relation lefts rights := by
  induction hfirst generalizing rights with
  | nil =>
    cases hsecond
    exact .nil
  | cons hhead _ ih =>
    rw [List.forall_mem_cons] at hrelated
    cases hsecond with
    | cons hother hrest => exact .cons (hrelated.1 _ _ hhead hother) (ih hrelated.2 hrest)

/-- If everything in a list corresponds to something, the list corresponds to one. -/
theorem exists_forall₂ {Left Right : Type} {relation : Left → Right → Prop} :
    ∀ {lefts : List Left}, (∀ left ∈ lefts, ∃ right, relation left right) →
      ∃ rights, List.Forall₂ relation lefts rights
  | [], _ => ⟨[], .nil⟩
  | left :: rest, hrelated => by
    obtain ⟨right, hright⟩ := hrelated left List.mem_cons_self
    obtain ⟨rights, hrights⟩ :=
      exists_forall₂ fun other hother ↦ hrelated other (List.mem_cons_of_mem left hother)
    exact ⟨right :: rights, .cons hright hrights⟩

/-- Where one of two corresponding lists is put in another order, the other one can be, too. -/
theorem exists_forall₂_of_perm {Left Right : Type} {relation : Left → Right → Prop}
    {lefts reordered : List Left} {rights : List Right}
    (hrelated : List.Forall₂ relation lefts rights) (hperm : lefts.Perm reordered) :
    ∃ others, List.Forall₂ relation reordered others ∧ rights.Perm others := by
  obtain ⟨others, hothers, hrights⟩ := List.perm_comp_forall₂ hperm.symm hrelated
  exact ⟨others, hothers, hrights.symm⟩

/-- Lists whose members correspond to the same lists correspond to the same list together. -/
theorem flatMap_eq_of_forall₂ {Left Right Value : Type} {first : Left → List Value}
    {second : Right → List Value} {lefts : List Left} {rights : List Right}
    (hrelated : List.Forall₂ (fun left right ↦ first left = second right) lefts rights) :
    lefts.flatMap first = rights.flatMap second := by
  induction hrelated with
  | nil => rfl
  | cons hhead _ ih => rw [List.flatMap_cons, List.flatMap_cons, hhead, ih]

/-- Lists whose members correspond to the same things have the same things in them together. -/
theorem flatMap_perm_of_forall₂ {Left Right Value : Type} {first : Left → List Value}
    {second : Right → List Value} {lefts : List Left} {rights : List Right}
    (hrelated : List.Forall₂ (fun left right ↦ (first left).Perm (second right)) lefts rights) :
    (lefts.flatMap first).Perm (rights.flatMap second) := by
  induction hrelated with
  | nil => exact .nil
  | cons hhead _ ih => exact hhead.append ih

/-- What stands in a list of which one member is changed is what becomes of that member, or another
member. -/
theorem mem_modify {Value : Type} {values : List Value} {place : Nat} {change : Value → Value}
    {value : Value} (hmem : value ∈ values.modify place change) :
    (∃ changed, values[place]? = some changed ∧ value = change changed) ∨
      ∃ other, other ≠ place ∧ values[other]? = some value := by
  obtain ⟨other, hother⟩ := List.mem_iff_getElem?.mp hmem
  rcases eq_or_ne other place with rfl | hne
  · rw [List.getElem?_modify_eq] at hother
    obtain ⟨changed, hchanged, rfl⟩ := Option.map_eq_some_iff.mp hother
    exact .inl ⟨changed, hchanged, rfl⟩
  · rw [List.getElem?_modify_ne _ _ hne.symm] at hother
    exact .inr ⟨other, hne, hother⟩

/-! ### Lists of keys -/

/-- What stands in a list from a member on. -/
theorem exists_dropWhile_ne {keys : List String} {key : String} (hmem : key ∈ keys) :
    ∃ skipped rest, keys.dropWhile (· != key) = key :: rest ∧ keys = skipped ++ key :: rest := by
  induction keys with
  | nil => cases hmem
  | cons first rest ih =>
    by_cases hfirst : first = key
    · exact ⟨[], rest, by simp [hfirst], by simp [hfirst]⟩
    · have hrest : key ∈ rest := (List.mem_cons.mp hmem).resolve_left (Ne.symm hfirst)
      obtain ⟨skipped, others, hdrop, hsplit⟩ := ih hrest
      exact ⟨first :: skipped, others, by simpa [hfirst] using hdrop, by simp [← hsplit]⟩

/-- A list whose repetitions are left out has no member twice. -/
theorem nodup_eraseDups : ∀ keys : List String, keys.eraseDups.Nodup
  | [] => List.nodup_nil
  | key :: rest => by
    rw [List.eraseDups_cons, List.nodup_cons, List.mem_eraseDups, List.mem_filter]
    refine ⟨fun hkey ↦ ?_, nodup_eraseDups _⟩
    simp at hkey
  termination_by keys => keys.length
  decreasing_by exact Nat.lt_succ_of_le (List.length_filter_le _ rest)

/-! ### Look-up tables -/

/-- What is looked up is the value of the first entry for the key. -/
theorem map_find?_eq_lookup {Value : Type} (table : List (String × Value)) (key : String) :
    (table.find? fun entry ↦ entry.1 == key).map (·.2) = table.lookup key := by
  induction table with
  | nil => rfl
  | cons entry rest ih =>
    rw [List.find?_cons, List.lookup_cons, Bool.beq_comm]
    cases key == entry.1 with
    | true => rfl
    | false => exact ih

/-- What is looked up is an entry. -/
theorem mem_of_lookup {Value : Type} {table : List (String × Value)} {key : String} {value : Value}
    (hlookup : table.lookup key = some value) : (key, value) ∈ table := by
  obtain ⟨before, behind, rfl, _⟩ := List.lookup_eq_some_iff.mp hlookup
  exact List.mem_append_right before List.mem_cons_self

/-- In a table without two entries for one key an entry is what is looked up. -/
theorem lookup_of_mem {Value : Type} {table : List (String × Value)}
    (hnodup : (table.map (·.1)).Nodup) {key : String} {value : Value}
    (hmem : (key, value) ∈ table) : table.lookup key = some value := by
  induction table with
  | nil => cases hmem
  | cons entry rest ih =>
    rw [List.map_cons, List.nodup_cons] at hnodup
    rcases List.mem_cons.mp hmem with rfl | hrest
    · exact List.lookup_cons_self
    · have hkey : (key == entry.1) = false := by
        refine beq_false_of_ne fun hkey ↦ hnodup.1 ?_
        exact hkey ▸ List.mem_map_of_mem hrest
      rw [List.lookup_cons, hkey]
      exact ih hnodup.2 hrest

/-- Without two entries for one key, the order of a table does not matter. -/
theorem lookup_eq_of_perm {Value : Type} {table reordered : List (String × Value)}
    (hnodup : (table.map (·.1)).Nodup) (hperm : table.Perm reordered) (key : String) :
    reordered.lookup key = table.lookup key := by
  have hreordered := (hperm.map (·.1)).nodup_iff.mp hnodup
  apply Option.ext
  intro value
  constructor
  · intro hlookup
    exact lookup_of_mem hnodup (hperm.mem_iff.mpr (mem_of_lookup hlookup))
  · intro hlookup
    exact lookup_of_mem hreordered (hperm.mem_iff.mp (mem_of_lookup hlookup))

/-- Entries at the end of a table do not change what was looked up before. -/
theorem lookup_of_start {Value : Type} {table later : List (String × Value)}
    (hstart : table <+: later) {key : String} {value : Value}
    (hlookup : table.lookup key = some value) : later.lookup key = some value := by
  obtain ⟨added, rfl⟩ := hstart
  rw [List.lookup_append, hlookup, Option.some_or]

/-- With one more entry at its end, what is looked up in a table is what was looked up before or the
value of that entry. -/
theorem lookup_concat_iff {Value : Type} {table : List (String × Value)} {key other : String}
    {value found : Value} :
    (table ++ [(key, value)]).lookup other = some found ↔
      table.lookup other = some found ∨
        table.lookup other = none ∧ other = key ∧ found = value := by
  rw [List.lookup_append, Option.or_eq_some_iff]
  refine or_congr_right (and_congr_right fun _ ↦ ?_)
  rw [List.lookup_cons, List.lookup_nil]
  by_cases hkey : other = key
  · rw [beq_iff_eq.mpr hkey, Option.some.injEq, eq_comm]
    exact (and_iff_right hkey).symm
  · rw [beq_false_of_ne hkey]
    exact ⟨nofun, fun h ↦ absurd h.1 hkey⟩

/-- A key is looked up if it has an entry. -/
theorem exists_lookup_iff {Value : Type} {table : List (String × Value)} {key : String} :
    (∃ value, table.lookup key = some value) ↔ key ∈ table.map (·.1) := by
  rw [← Option.isSome_iff_exists, List.lookup_isSome_iff, List.mem_map]
  exact exists_congr fun entry ↦ and_congr_right fun _ ↦ beq_iff_eq.trans eq_comm

/-! ### Chains of steps -/

section Chains

variable {Value : Type} {leads : Value → Value → Prop}

/-- Where all that something leads to is in a list, and nothing of it leads back to itself, no chain
of steps that starts there is endless. -/
theorem acc_of_acyclic {values : List Value} {start : Value}
    (hlisted : ∀ value, Relation.TransGen leads start value → value ∈ values)
    (hacyclic : ∀ value, Relation.TransGen leads start value →
      ¬Relation.TransGen leads value value) :
    Acc (flip leads) start := by
  -- Only within the list are there finitely many, so the chains are followed there first.
  let within (second first : { value // value ∈ values }) : Prop :=
    Relation.TransGen leads start first.1 ∧ Relation.TransGen leads first.1 second.1
  have hfinite : Finite { value // value ∈ values } := (List.finite_toSet values).to_subtype
  have htrans : IsTrans _ within :=
    ⟨fun _ _ _ hsecond hfirst ↦ ⟨hfirst.1, hfirst.2.trans hsecond.2⟩⟩
  have hirrefl : Std.Irrefl within :=
    ⟨fun value hcircular ↦ hacyclic value.1 hcircular.1 hcircular.2⟩
  have hreached (value : { value // value ∈ values })
      (hvalue : Relation.TransGen leads start value.1) : Acc (flip leads) value.1 := by
    induction value using (Finite.wellFounded_of_trans_of_irrefl within).induction with
    | _ value ih =>
      refine .intro value.1 fun next hnext ↦ ?_
      have hreached := hvalue.tail hnext
      exact ih ⟨next, hlisted next hreached⟩ ⟨hvalue, .single hnext⟩ hreached
  exact .intro start fun next hnext ↦
    hreached ⟨next, hlisted next (.single hnext)⟩ (.single hnext)

/-- Where everything that is reached has a property exactly if it has another one by itself and all
that it leads to has the first, the start has the first if all that is reached has the other.
Assumes: no chain of steps that starts there is endless. -/
theorem iff_forall_reached {whole own : Value → Prop} {start : Value}
    (hstep : ∀ value, Relation.ReflTransGen leads start value →
      (whole value ↔ own value ∧ ∀ next, leads value next → whole next))
    (hacc : Acc (flip leads) start) :
    whole start ↔ ∀ value, Relation.ReflTransGen leads start value → own value := by
  constructor
  · intro hwhole value hreached
    have hvalue : whole value := by
      induction hreached with
      | refl => exact hwhole
      | tail hreached hnext ih => exact ((hstep _ hreached).mp ih).2 _ hnext
    exact ((hstep value hreached).mp hvalue).1
  · intro hown
    induction hacc with
    | intro start _ ih =>
      refine (hstep start .refl).mpr ⟨hown start .refl, fun next hnext ↦ ?_⟩
      exact ih next hnext (fun value hreached ↦ hstep value (.head hnext hreached))
        fun value hreached ↦ hown value (.head hnext hreached)

end Chains

end LicenseHeaders
