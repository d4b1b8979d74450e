import IconForge.PathData.Parser
import IconForge.Proofs.Results

/-!
# What path data draws

The grammar of path data on its tokens: a sequence of clauses, each a command letter with the
numbers that belong to it, in groups of as many numbers as the letter takes. The parser accepts
exactly the path data that is such a sequence, and answers the commands of the groups in their order
(`parse_eq_ok_iff`).
-/

namespace IconForge
namespace PathData

/-- The command that a letter draws with a group of numbers, given whether the group is the first
one of the letter. -/
def Letter.draw (letter : Letter) (isFirst : Bool) (group : List Binary32) : PathCommand :=
  let number (i : Nat) : Binary32 := group.getD i (.zero false)
  let point (i : Nat) : Point := ⟨number i, number (i + 1)⟩
  match letter.verb with
  | .close => .close
  | .moveTo =>
    if isFirst then .moveTo letter.relative (point 0) else .lineTo letter.relative (point 0)
  | .lineTo => .lineTo letter.relative (point 0)
  | .horizontalTo => .horizontalTo letter.relative (number 0)
  | .verticalTo => .verticalTo letter.relative (number 0)
  | .curveTo => .curveTo letter.relative (point 0) (point 2) (point 4)
  | .reflectiveCurveTo => .reflectiveCurveTo letter.relative (point 0) (point 2)
  | .quadTo => .quadTo letter.relative (point 0) (point 2)
  | .reflectiveQuadTo => .reflectiveQuadTo letter.relative (point 0)
  | .arcTo =>
    .arcTo letter.relative
      ⟨number 0, number 1, number 2, (number 3).magnitude ≠ 0, (number 4).magnitude ≠ 0, point 5⟩

/-- A command letter and the numbers that belong to it. -/
structure Clause where
  letter : Letter
  numbers : List Binary32

namespace Clause

def tokens (clause : Clause) : List Token :=
  .command clause.letter :: clause.numbers.map .number

/-- The closing letter takes no numbers, any other one a positive multiple of its arity. -/
def IsCounted (clause : Clause) : Prop :=
  if clause.letter.verb = .close then
    clause.numbers = []
  else
    clause.numbers ≠ [] ∧ clause.letter.verb.arity ∣ clause.numbers.length

def groups (clause : Clause) : List (List Binary32) :=
  let size := clause.letter.verb.arity
  (List.range (clause.numbers.length / size)).map fun i =>
    (clause.numbers.drop (i * size)).take size

/-- The commands that the clause draws: one for each group, in their order. -/
def commands (clause : Clause) : List PathCommand :=
  if clause.letter.verb = .close then
    [.close]
  else
    clause.groups.mapIdx fun i group => clause.letter.draw (i = 0) group

end Clause

/-! ### Groups of numbers -/

namespace Letter

theorem command?_eq (letter : Letter) (isFirst : Bool) (group : List Binary32) :
    letter.command? isFirst group =
      if group.length = letter.verb.arity then some (letter.draw isFirst group) else none := by
  obtain ⟨verb, relative⟩ := letter
  rcases group with _ | ⟨a, _ | ⟨b, _ | ⟨c, _ | ⟨d, _ | ⟨e, _ | ⟨f, _ | ⟨g, _ | ⟨h, rest⟩⟩⟩⟩⟩⟩⟩⟩ <;>
    cases verb <;> simp [command?, draw, Verb.arity]

theorem groups_of_ne_nil {size : Nat} (hsize : 0 < size) {numbers : List Binary32}
    (h : numbers ≠ []) :
    groups size numbers = numbers.take size :: groups size (numbers.drop size) := by
  obtain ⟨size, rfl⟩ := Nat.exists_eq_succ_of_ne_zero (Nat.ne_of_gt hsize)
  cases numbers with
  | nil => exact absurd rfl h
  | cons number rest =>
    rw [groups]
    rfl

theorem flatten_groups (size : Nat) (numbers : List Binary32) :
    (groups size numbers).flatten = numbers := by
  fun_induction groups size numbers with
  | case1 => rfl
  | case2 number rest ih => simp [ih]

/-- If the numbers fill their groups, the group with an index begins that many group sizes on. -/
theorem groups_eq_map {size : Nat} (hsize : 0 < size) (count : Nat) {numbers : List Binary32}
    (h : numbers.length = count * size) :
    groups size numbers =
      (List.range count).map fun i => (numbers.drop (i * size)).take size := by
  induction count generalizing numbers with
  | zero =>
    rw [Nat.zero_mul, List.length_eq_zero_iff] at h
    subst h
    simp [groups]
  | succ count ih =>
    rw [Nat.succ_mul] at h
    have hne : numbers ≠ [] := by
      rintro rfl
      rw [List.length_nil] at h
      omega
    have hrest : (numbers.drop size).length = count * size := by
      rw [List.length_drop]
      omega
    rw [groups_of_ne_nil hsize hne, ih hrest, List.range_succ_eq_map, List.map_cons, List.map_map]
    simp [Function.comp_def, Nat.succ_mul, Nat.add_comm]

theorem length_of_mem_groups {size : Nat} (hsize : 0 < size) {numbers : List Binary32}
    (h : size ∣ numbers.length) : ∀ group ∈ groups size numbers, group.length = size := by
  obtain ⟨count, hcount⟩ := h
  rw [groups_eq_map hsize count (hcount.trans (Nat.mul_comm _ _))]
  intro group hmem
  obtain ⟨i, hi, rfl⟩ := List.mem_map.mp hmem
  have hroom : (i + 1) * size ≤ count * size :=
    Nat.mul_le_mul_right size (List.mem_range.mp hi)
  rw [Nat.succ_mul] at hroom
  rw [Nat.mul_comm] at hcount
  rw [List.length_take, List.length_drop]
  omega

theorem length_of_groups {size : Nat} {numbers : List Binary32}
    (h : ∀ group ∈ groups size numbers, group.length = size) :
    numbers.length = (groups size numbers).length * size := by
  have hlengths : (groups size numbers).map List.length =
      List.replicate (groups size numbers).length size := by
    rw [List.eq_replicate_iff]
    exact ⟨by simp, by simpa using h⟩
  calc
    numbers.length = ((groups size numbers).map List.length).sum := by
      rw [← List.length_flatten, flatten_groups]
    _ = (groups size numbers).length * size := by
      rw [hlengths, List.sum_replicate_nat]

/-- Groups are drawn if each has the right number of numbers, each by its own command. -/
theorem commandsOfGroups?_eq (letter : Letter) (isFirst : Bool) (gs : List (List Binary32)) :
    letter.commandsOfGroups? isFirst gs =
      if ∀ group ∈ gs, group.length = letter.verb.arity then
        some (gs.mapIdx fun i group => letter.draw (isFirst && i = 0) group)
      else none := by
  induction gs generalizing isFirst with
  | nil => simp [commandsOfGroups?]
  | cons group others ih =>
    rw [commandsOfGroups?, command?_eq, ih false]
    by_cases hgroup : group.length = letter.verb.arity
    · by_cases hothers : ∀ group ∈ others, group.length = letter.verb.arity
      · have hall : ∀ g ∈ group :: others, g.length = letter.verb.arity :=
          List.forall_mem_cons.mpr ⟨hgroup, hothers⟩
        rw [if_pos hgroup, if_pos hothers, if_pos hall]
        simp [List.mapIdx_cons]
      · have hnot : ¬ ∀ g ∈ group :: others, g.length = letter.verb.arity :=
          fun h => hothers (List.forall_mem_cons.mp h).2
        rw [if_pos hgroup, if_neg hothers, if_neg hnot]
        rfl
    · have hnot : ¬ ∀ g ∈ group :: others, g.length = letter.verb.arity :=
        fun h => hgroup (List.forall_mem_cons.mp h).1
      rw [if_neg hgroup, if_neg hnot]
      rfl

theorem arity_pos {verb : Verb} (h : verb ≠ .close) : 0 < verb.arity := by
  cases verb with
  | close => exact absurd rfl h
  | _ => decide

end Letter

namespace Clause

theorem groups_eq {clause : Clause} (hverb : clause.letter.verb ≠ .close)
    (h : clause.letter.verb.arity ∣ clause.numbers.length) :
    clause.groups = Letter.groups clause.letter.verb.arity clause.numbers := by
  have hpos := Letter.arity_pos hverb
  exact (Letter.groups_eq_map hpos _ (Nat.div_mul_cancel h).symm).symm

/-- The groups of a clause hold its numbers, each once and in their order. -/
theorem flatten_groups {clause : Clause} (h : clause.IsCounted) :
    clause.groups.flatten = clause.numbers := by
  unfold IsCounted at h
  split at h
  · simp [groups, h]
  · next hverb => rw [groups_eq hverb h.2, Letter.flatten_groups]

theorem length_of_mem_groups {clause : Clause} (h : clause.IsCounted) :
    ∀ group ∈ clause.groups, group.length = clause.letter.verb.arity := by
  unfold IsCounted at h
  split at h
  · simp [groups, h]
  · next hverb =>
    rw [groups_eq hverb h.2]
    exact Letter.length_of_mem_groups (Letter.arity_pos hverb) h.2

/-- The reader of letters draws the clauses that are counted, and no others. -/
theorem commands?_eq_some_iff (clause : Clause) (drawn : List PathCommand) :
    clause.letter.commands? clause.numbers = some drawn ↔
      clause.IsCounted ∧ drawn = clause.commands := by
  unfold Letter.commands? IsCounted commands
  by_cases hverb : clause.letter.verb = .close
  · by_cases hnumbers : clause.numbers = [] <;> simp [hverb, hnumbers, eq_comm]
  · by_cases hnumbers : clause.numbers = []
    · simp [hverb, hnumbers]
    · simp only [hverb, hnumbers, ↓reduceIte, ne_eq, not_false_eq_true, true_and]
      rw [Letter.commandsOfGroups?_eq]
      constructor
      · intro h
        rw [Option.ite_none_right_eq_some, Option.some.injEq] at h
        have hdvd : clause.letter.verb.arity ∣ clause.numbers.length :=
          ⟨_, (Letter.length_of_groups h.1).trans (Nat.mul_comm _ _)⟩
        refine ⟨hdvd, ?_⟩
        rw [groups_eq hverb hdvd, ← h.2]
        simp
      · rintro ⟨hdvd, rfl⟩
        rw [if_pos (Letter.length_of_mem_groups (Letter.arity_pos hverb) hdvd),
          groups_eq hverb hdvd]
        simp

end Clause

/-! ### Segments as clauses -/

def Segment.clause (s : Segment) : Clause := ⟨s.letter, s.arguments⟩

theorem tokens_takeNumbers (stop : Nat) (lexemes : List Lexeme) :
    lexemes.map Lexeme.token =
      (takeNumbers stop lexemes).1.map .number ++
        (takeNumbers stop lexemes).2.2.map Lexeme.token := by
  fun_induction takeNumbers stop lexemes with
  | case1 stop value start next rest values last others h ih =>
    rw [h] at ih
    simp [ih]
  | case2 => rfl

theorem takeNumbers_of_tokens (stop : Nat) {lexemes : List Lexeme} {numbers : List Binary32}
    {others : List Token} (hothers : ∀ value, others.head? ≠ some (.number value))
    (h : lexemes.map Lexeme.token = numbers.map .number ++ others) :
    (takeNumbers stop lexemes).1 = numbers ∧
      (takeNumbers stop lexemes).2.2.map Lexeme.token = others := by
  induction numbers generalizing stop lexemes with
  | nil =>
    rw [List.map_nil, List.nil_append] at h
    unfold takeNumbers
    split
    · next value _ next rest =>
      rw [← h] at hothers
      exact absurd rfl (hothers value)
    · exact ⟨rfl, h⟩
  | cons value numbers ih =>
    obtain ⟨⟨token, start, next⟩, rest, rfl, htoken, hrest⟩ := List.map_eq_cons_iff.mp h
    dsimp only at htoken
    subst htoken
    obtain ⟨hnumbers, htail⟩ := ih next hrest
    exact ⟨congrArg (value :: ·) hnumbers, htail⟩

theorem tokens_segments (lexemes : List Lexeme) :
    lexemes.map Lexeme.token =
      ((segments lexemes).1.map Segment.clause).flatMap Clause.tokens ++
        (segments lexemes).2.map Lexeme.token := by
  fun_induction segments lexemes with
  | case1 letter start stop rest numbers others strays h ih =>
    rw [h] at ih
    have hrest := tokens_takeNumbers stop rest
    simp only [List.map_cons, List.flatMap_cons, Clause.tokens, Segment.clause]
    rw [hrest, ih]
    simp [numbers]
  | case2 => rfl

/-- Tokens that are those of clauses are read as these clauses, with no strays. -/
theorem segments_of_tokens {lexemes : List Lexeme} {clauses : List Clause}
    (h : lexemes.map Lexeme.token = clauses.flatMap Clause.tokens) :
    (segments lexemes).1.map Segment.clause = clauses ∧ (segments lexemes).2 = [] := by
  induction clauses generalizing lexemes with
  | nil =>
    rw [List.flatMap_nil, List.map_eq_nil_iff] at h
    subst h
    simp [segments]
  | cons clause clauses ih =>
    rw [List.flatMap_cons, Clause.tokens, List.cons_append] at h
    obtain ⟨⟨token, start, stop⟩, rest, rfl, htoken, hrest⟩ := List.map_eq_cons_iff.mp h
    dsimp only at htoken
    subst htoken
    have hothers : ∀ value, (clauses.flatMap Clause.tokens).head? ≠ some (.number value) := by
      intro value
      cases clauses <;> simp [Clause.tokens]
    obtain ⟨hnumbers, htail⟩ := takeNumbers_of_tokens stop hothers hrest
    obtain ⟨hclauses, hstrays⟩ := ih htail
    rw [segments]
    exact ⟨by simp [Segment.clause, hnumbers, hclauses], hstrays⟩

theorem Segment.commands_eq_ok_iff (s : Segment) (drawn : List PathCommand) :
    s.commands = .ok drawn ↔ s.clause.IsCounted ∧ drawn = s.clause.commands := by
  rw [← Clause.commands?_eq_some_iff, Segment.commands, Segment.clause]
  cases s.letter.commands? s.arguments <;> simp

theorem commandsOfSegments_eq_ok_iff (read : List Segment) (drawn : List PathCommand) :
    commandsOfSegments read = .ok drawn ↔
      (∀ clause ∈ read.map Segment.clause, clause.IsCounted) ∧
        drawn = (read.map Segment.clause).flatMap Clause.commands := by
  induction read generalizing drawn with
  | nil => simp [commandsOfSegments, eq_comm]
  | cons segment others ih =>
    rw [List.map_cons, List.forall_mem_cons, List.flatMap_cons]
    simp only [commandsOfSegments, bind_eq_ok_iff, pure_eq_ok_iff, ih,
      Segment.commands_eq_ok_iff]
    constructor
    · rintro ⟨commands, ⟨hsegment, rfl⟩, further, ⟨hothers, rfl⟩, rfl⟩
      exact ⟨⟨hsegment, hothers⟩, rfl⟩
    · rintro ⟨⟨hsegment, hothers⟩, rfl⟩
      exact ⟨_, ⟨hsegment, rfl⟩, _, ⟨hothers, rfl⟩, rfl⟩

theorem parseLexemes_eq_ok_iff (lexemes : List Lexeme) (drawn : List PathCommand) :
    parseLexemes lexemes = .ok drawn ↔
      (segments lexemes).2 = [] ∧ commandsOfSegments (segments lexemes).1 = .ok drawn := by
  unfold parseLexemes
  generalize segments lexemes = split
  obtain ⟨read, strays⟩ := split
  simp only [bind_eq_ok_iff]
  cases strays with
  | nil => simp [pure_eq_ok_iff]
  | cons stray others => simp

/-- Lexemes are read as the commands of the clauses that they are the tokens of. -/
theorem parseLexemes_eq_ok_iff_clauses (lexemes : List Lexeme) (drawn : List PathCommand) :
    parseLexemes lexemes = .ok drawn ↔
      ∃ clauses : List Clause, lexemes.map Lexeme.token = clauses.flatMap Clause.tokens ∧
        (∀ clause ∈ clauses, clause.IsCounted) ∧ drawn = clauses.flatMap Clause.commands := by
  rw [parseLexemes_eq_ok_iff, commandsOfSegments_eq_ok_iff]
  constructor
  · rintro ⟨hstrays, hcounted, hdrawn⟩
    refine ⟨_, ?_, hcounted, hdrawn⟩
    rw [tokens_segments lexemes, hstrays, List.map_nil, List.append_nil]
  · rintro ⟨clauses, htokens, hcounted, hdrawn⟩
    obtain ⟨hclauses, hstrays⟩ := segments_of_tokens htokens
    rw [hclauses]
    exact ⟨hstrays, hcounted, hdrawn⟩

theorem Clause.unreadable_not_mem_tokens (clauses : List Clause) :
    Token.unreadable ∉ clauses.flatMap Clause.tokens := by
  simp [Clause.tokens]

end PathData
end IconForge
