import Mathlib.Data.List.Chain
import InputBridge.Event.Code
import InputBridge.Key.Name
/-!
# The table of key names

A code is looked up by halving the table and a name by going through it, so the two agree only
because of how the table is made: its codes increase, no name stands in it twice, and no older
spelling is a key's own name. Halving needs nothing but the order. At each step the middle entry
tells on which side of it the code can be, and the entries on the other side are all below it or
all above.

From that, the code of a key's own name is the key again, the older spellings stand for keys that
have a name of their own, and the mouse buttons, whose codes are beyond the table, have none.
-/
namespace InputBridge.Key

/-- The codes of the entries increase. -/
def Increasing (entries : List (UInt16 × String)) : Prop :=
  entries.Pairwise fun one other => one.1 < other.1

/-- The codes of the table of names increase. -/
theorem names_increasing : Increasing names := by
  have chain : (names.map fun entry => entry.1.toNat).IsChain (· < ·) := by decide +kernel
  exact (List.pairwise_map.mp (List.isChain_iff_pairwise.mp chain)).imp UInt16.lt_iff_toNat_lt.mpr

/-- What the middle entry of a table in increasing order tells of an entry that is looked for. -/
theorem mem_around {code known : UInt16} {name own : String}
    {before after : List (UInt16 × String)}
    (increasing : Increasing (before ++ (known, own) :: after)) :
    (code, name) ∈ before ++ (known, own) :: after ↔
      if code = known then own = name
      else if code < known then (code, name) ∈ before
      else (code, name) ∈ after := by
  obtain ⟨_, behind, across⟩ := List.pairwise_append.mp increasing
  have below : ∀ entry ∈ before, entry.1 < known := fun entry inside =>
    across entry inside (known, own) List.mem_cons_self
  have above : ∀ entry ∈ after, known < entry.1 := (List.pairwise_cons.mp behind).1
  rw [List.mem_append, List.mem_cons, Prod.mk.injEq]
  split
  · next same =>
    subst same
    have notBefore : (code, name) ∉ before := fun inside =>
      UInt16.lt_irrefl code (below _ inside)
    have notAfter : (code, name) ∉ after := fun inside =>
      UInt16.lt_irrefl code (above _ inside)
    simp only [notBefore, notAfter, true_and, false_or, or_false]
    exact eq_comm
  · next other =>
    simp only [other, false_and, false_or]
    split
    · next less =>
      have notAfter : (code, name) ∉ after := fun inside =>
        UInt16.lt_irrefl code (UInt16.lt_trans less (above _ inside))
      simp only [notAfter, or_false]
    · next notLess =>
      have notBefore : (code, name) ∉ before := fun inside => notLess (below _ inside)
      simp only [notBefore, false_or]

/-- Halving entries in increasing order finds the name that stands beside a code. -/
theorem name_among_exact (code : UInt16) (entries : List (UInt16 × String))
    (increasing : Increasing entries) (name : String) :
    nameAmong code entries = some name ↔ (code, name) ∈ entries := by
  fun_induction nameAmong code entries with
  | case1 entries cut =>
    have none : entries = [] := by
      have halved := congrArg List.length cut
      rw [List.length_drop, List.length_nil] at halved
      exact List.length_eq_zero_iff.mp (by omega)
    simp [none]
  | case2 entries own after cut =>
    have parts := List.take_append_drop (entries.length / 2) entries
    rw [cut] at parts
    rw [← parts] at increasing ⊢
    simp [mem_around increasing]
  | case3 entries known own after cut other less ih =>
    have parts := List.take_append_drop (entries.length / 2) entries
    rw [cut] at parts
    rw [← parts] at increasing
    rw [ih (List.pairwise_append.mp increasing).1]
    conv_rhs => rw [← parts]
    rw [mem_around increasing, if_neg other, if_pos less]
  | case4 entries known own after cut other notLess ih =>
    have parts := List.take_append_drop (entries.length / 2) entries
    rw [cut] at parts
    rw [← parts] at increasing
    rw [ih (List.pairwise_cons.mp (List.pairwise_append.mp increasing).2.1).2]
    conv_rhs => rw [← parts]
    rw [mem_around increasing, if_neg other, if_neg notLess]

/-- The name of a code is the one that stands beside it in the table. -/
theorem name_of_iff (code : UInt16) (name : String) :
    nameOf code = some name ↔ (code, name) ∈ names :=
  name_among_exact code names names_increasing name

/-- A mark for a name, made from its bytes. Names with different marks differ. -/
def mark (name : String) : Nat :=
  name.toByteArray.data.toList.foldl (fun number byte => number * 128 + byte.toNat) 0 % 5159

/-- Every name has a mark of its own, which is not among those given as bits. -/
def marksApart (given : Nat) : List String → Bool
  | [] => true
  | name :: rest => !given.testBit (mark name) && marksApart (given ||| 1 <<< mark name) rest

/-- Names that pass the check by their marks differ from each other, and none has a mark that was
given. -/
theorem marks_apart (given : Nat) (spelled : List String)
    (apart : marksApart given spelled = true) :
    spelled.Nodup ∧ ∀ name ∈ spelled, given.testBit (mark name) = false := by
  induction spelled generalizing given with
  | nil => exact ⟨.nil, nofun⟩
  | cons first rest inductionHypothesis =>
    obtain ⟨fresh, apartRest⟩ := Bool.and_eq_true_iff.mp apart
    obtain ⟨distinct, unmarked⟩ := inductionHypothesis _ apartRest
    have marked : (given ||| 1 <<< mark first).testBit (mark first) = true := by
      simp [Nat.testBit_or, Nat.testBit_shiftLeft]
    refine ⟨List.nodup_cons.mpr ⟨fun again => ?_, distinct⟩, ?_⟩
    · exact Bool.false_ne_true ((unmarked first again).symm.trans marked)
    · intro name inside
      rcases List.mem_cons.mp inside with rfl | later
      · simpa using fresh
      · exact (Bool.or_eq_false_iff.mp ((Nat.testBit_or _ _ _).symm.trans (unmarked name later))).1

/-- No name stands for two keys, whether as their own name or as an older spelling. -/
theorem names_distinct : (names.map Prod.snd ++ aliases.map Prod.fst).Nodup := by
  have apart : marksApart 0 (names.map Prod.snd ++ aliases.map Prod.fst) = true := by
    decide +kernel
  exact (marks_apart 0 _ apart).1

/-- Among entries with distinct names the first with a name is the only one. -/
theorem find_among_distinct {α : Type} (called : α → String) (entries : List α)
    (distinct : (entries.map called).Nodup) (name : String) (entry : α) :
    (entries.find? fun entry => called entry == name) = some entry ↔
      entry ∈ entries ∧ called entry = name := by
  induction entries with
  | nil => simp
  | cons first rest inductionHypothesis =>
    obtain ⟨fresh, distinctRest⟩ := List.nodup_cons.mp distinct
    rw [List.find?_cons, List.mem_cons]
    by_cases found : called first = name
    · have alone : ∀ other ∈ rest, called other ≠ name := fun other inside same =>
        fresh (found.trans same.symm ▸ List.mem_map_of_mem inside)
      rw [beq_iff_eq.mpr found, Option.some.injEq]
      constructor
      · rintro rfl
        exact ⟨.inl rfl, found⟩
      · rintro ⟨same | inside, called⟩
        · exact same.symm
        · exact absurd called (alone entry inside)
    · rw [beq_eq_false_iff_ne.mpr found]
      refine (inductionHypothesis distinctRest).trans (and_congr_left fun called => ?_)
      have other : entry ≠ first := fun same => found (same ▸ called)
      exact (or_iff_right other).symm

/-- A name stands for the key whose own name or older spelling it is. -/
theorem code_of_iff (name : String) (code : UInt16) :
    codeOf name = some code ↔ (code, name) ∈ names ∨ (name, code) ∈ aliases := by
  obtain ⟨distinctNames, distinctAliases, apart⟩ := List.nodup_append.mp names_distinct
  have own (code : UInt16) := find_among_distinct Prod.snd names distinctNames name (code, name)
  have old (code : UInt16) := find_among_distinct Prod.fst aliases distinctAliases name (name, code)
  rw [codeOf]
  split
  · next known beside found =>
    obtain ⟨inside, rfl⟩ := (find_among_distinct Prod.snd names distinctNames name _).mp found
    have notOld : (beside, code) ∉ aliases := fun spelled =>
      apart beside (List.mem_map_of_mem inside) beside (List.mem_map_of_mem spelled) rfl
    have same : (code, beside) ∈ names ↔ known = code := by
      constructor
      · intro again
        have twice := (own code).mpr ⟨again, rfl⟩
        exact congrArg Prod.fst (Option.some.inj (found.symm.trans twice))
      · rintro rfl
        exact inside
    rw [Option.some.injEq, same, or_iff_left notOld]
  · next missing =>
    have notOwn : (code, name) ∉ names := fun inside =>
      nomatch missing.symm.trans ((own code).mpr ⟨inside, rfl⟩)
    rw [or_iff_right notOwn, Option.map_eq_some_iff]
    constructor
    · rintro ⟨⟨spelled, known⟩, found, rfl⟩
      obtain ⟨inside, rfl⟩ := (find_among_distinct Prod.fst aliases distinctAliases name _).mp found
      exact inside
    · exact fun inside => ⟨(name, code), (old code).mpr ⟨inside, rfl⟩, rfl⟩

/-- An older spelling stands for a key that has a name of its own. -/
theorem alias_named (name : String) (code : UInt16) (older : (name, code) ∈ aliases) :
    ∃ own, nameOf code = some own := by
  have named : ∀ entry ∈ aliases, (nameOf entry.2).isSome := by decide +kernel
  exact Option.isSome_iff_exists.mp (named (name, code) older)

/-- The keys that can be named are those that have a name of their own. -/
theorem code_of_named (name : String) (code : UInt16) (stands : codeOf name = some code) :
    ∃ own, nameOf code = some own := by
  rcases (code_of_iff name code).mp stands with own | older
  · exact ⟨name, (name_of_iff code name).mpr own⟩
  · exact alias_named name code older

/-- The mouse buttons have no names: their codes are beyond those of the table. -/
theorem button_unnamed (code : UInt16) (own : String) (named : nameOf code = some own) :
    code ∉ [Button.left, Button.middle, Button.right] := by
  have below : ∀ entry ∈ names, entry.1 < Button.left := by decide +kernel
  have beyond : ∀ button ∈ [Button.left, Button.middle, Button.right], ¬ button < Button.left := by
    simp [Button.left, Button.middle, Button.right]
  intro isButton
  exact beyond code isButton (below (code, own) ((name_of_iff code own).mp named))

end InputBridge.Key
