import LogQuery.Regex.Search

/-!
# What the machine finds

The machine enters no state twice at one position, so what a thread leads to depends on what has
been entered before it.  `Fails` and `LeadsIn` say without that table which threads lead nowhere and
what the others lead to.  They agree with the machine, because a state that was entered before
either fails or is still on its way, and a way of so many steps never comes back to where a way of
fewer steps begins.
-/

namespace LogQuery.Regex

/-- The instructions that may come next. -/
def Instruction.targets : Instruction → List Nat
  | .one _ next | .look _ next | .mark _ next => [next]
  | .split first second => [first, second]
  | .accept => []

/-- What the table of visits tells threads apart by. -/
def Thread.place (thread : Thread) : Nat × Nat :=
  (thread.state, thread.position)

namespace Program

/-- No instruction leads out of the program. -/
def IsClosed (program : Program) : Prop :=
  program.entry < program.code.size ∧
    ∀ instruction ∈ program.code.toList, ∀ target ∈ instruction.targets,
      target < program.code.size

instance (program : Program) : Decidable program.IsClosed :=
  inferInstanceAs (Decidable (_ ∧ _))

/-- The state and the position of a thread exist. -/
def Holds (program : Program) (text : Array Char) (thread : Thread) : Prop :=
  thread.state < program.code.size ∧ thread.position ≤ text.size

/-- Every way from the thread on is cut off. -/
inductive Fails (program : Program) (text : Array Char) : Thread → Prop where
  | intro {thread : Thread} {threads : List Thread}
      (leads : program.successors text thread = some threads)
      (cutOff : ∀ next ∈ threads, Fails program text next) : Fails program text thread

/-- The preferred way from one thread to an accepting one takes so many steps. -/
inductive LeadsIn (program : Program) (text : Array Char) : Nat → Thread → Thread → Prop where
  | accept {thread : Thread} (accepts : program.successors text thread = none) :
      LeadsIn program text 0 thread thread
  | step {steps : Nat} {thread next last : Thread} {preferred others : List Thread}
      (leads : program.successors text thread = some (preferred ++ next :: others))
      (cutOff : ∀ thread ∈ preferred, Fails program text thread)
      (behind : LeadsIn program text steps next last) :
      LeadsIn program text (steps + 1) thread last

/-- A thread leads to an accepting one. -/
def Leads (program : Program) (text : Array Char) (thread last : Thread) : Prop :=
  ∃ steps, program.LeadsIn text steps thread last

variable {program : Program} {text : Array Char} {thread other next last : Thread}
variable {threads rest : List Thread} {visited : Visited} {state position steps fuel : Nat}
variable {marks : Marks}

/-! ## One step -/

theorem Leads.of_first (leads : program.successors text thread = some (next :: rest))
    (behind : program.Leads text next last) : program.Leads text thread last := by
  obtain ⟨steps, behind⟩ := behind
  have leads : program.successors text thread = some ([] ++ next :: rest) := leads
  exact ⟨steps + 1, .step leads (List.forall_mem_nil _) behind⟩

theorem Leads.of_second (leads : program.successors text thread = some (other :: next :: rest))
    (cutOff : program.Fails text other) (behind : program.Leads text next last) :
    program.Leads text thread last := by
  obtain ⟨steps, behind⟩ := behind
  have leads : program.successors text thread = some ([other] ++ next :: rest) := leads
  exact ⟨steps + 1, .step leads (List.forall_mem_singleton.mpr cutOff) behind⟩

section Instructions

variable {set : CharSet} {condition : Look} {target first second slot : Nat} {c : Char}

theorem successors_accept (here : program.code[state]? = some .accept) :
    program.successors text ⟨state, position, marks⟩ = none := by
  simp only [successors, here]

theorem successors_one (here : program.code[state]? = some (.one set target))
    (read : text[position]? = some c) (held : set.contains c = true) :
    program.successors text ⟨state, position, marks⟩ = some [⟨target, position + 1, marks⟩] := by
  simp only [successors, here, read, held, if_true]

theorem successors_split (here : program.code[state]? = some (.split first second)) :
    program.successors text ⟨state, position, marks⟩ =
      some [⟨first, position, marks⟩, ⟨second, position, marks⟩] := by
  simp only [successors, here]

theorem successors_mark (here : program.code[state]? = some (.mark slot target)) :
    program.successors text ⟨state, position, marks⟩ =
      some [⟨target, position, (slot, position) :: marks⟩] := by
  simp only [successors, here]

theorem Fails.one (set : CharSet) (target : Nat)
    (here : program.code[state]? = some (.one set target))
    (cutOff : ∀ c, text[position]? = some c → set.contains c = true →
      program.Fails text ⟨target, position + 1, marks⟩) :
    program.Fails text ⟨state, position, marks⟩ := by
  cases read : text[position]? with
  | none => exact .intro (by simp only [successors, here, read]) (List.forall_mem_nil _)
  | some c =>
      cases held : set.contains c with
      | true =>
          exact .intro (successors_one here read held)
            (List.forall_mem_singleton.mpr (cutOff c read held))
      | false =>
          exact .intro
            (by simp only [successors, here, read, held, Bool.false_eq_true, if_false])
            (List.forall_mem_nil _)

theorem Fails.look (target : Nat)
    (here : program.code[state]? = some (.look condition target))
    (cutOff : program.Fails text ⟨target, position, marks⟩) :
    program.Fails text ⟨state, position, marks⟩ := by
  by_cases holds :
      condition.holds (neighbours text position).1 (neighbours text position).2 = true
  · exact .intro (by simp only [successors, here, holds, if_true])
      (List.forall_mem_singleton.mpr cutOff)
  · exact .intro (by simp only [successors, here, holds, Bool.false_eq_true, if_false])
      (List.forall_mem_nil _)

theorem Fails.mark (target : Nat) (here : program.code[state]? = some (.mark slot target))
    (cutOff : program.Fails text ⟨target, position, (slot, position) :: marks⟩) :
    program.Fails text ⟨state, position, marks⟩ :=
  .intro (successors_mark here) (List.forall_mem_singleton.mpr cutOff)

theorem Leads.accept (here : program.code[state]? = some .accept) :
    program.Leads text ⟨state, position, marks⟩ ⟨state, position, marks⟩ :=
  ⟨0, .accept (successors_accept here)⟩

theorem Leads.one (set : CharSet) (target : Nat)
    (here : program.code[state]? = some (.one set target))
    (read : text[position]? = some c) (held : set.contains c = true)
    (behind : program.Leads text ⟨target, position + 1, marks⟩ last) :
    program.Leads text ⟨state, position, marks⟩ last :=
  .of_first (successors_one here read held) behind

theorem Leads.mark (target : Nat) (here : program.code[state]? = some (.mark slot target))
    (behind : program.Leads text ⟨target, position, (slot, position) :: marks⟩ last) :
    program.Leads text ⟨state, position, marks⟩ last :=
  .of_first (successors_mark here) behind

theorem Leads.preferred (here : program.code[state]? = some (.split first second))
    (behind : program.Leads text ⟨first, position, marks⟩ last) :
    program.Leads text ⟨state, position, marks⟩ last :=
  .of_first (successors_split here) behind

theorem Leads.alternative (here : program.code[state]? = some (.split first second))
    (cutOff : program.Fails text ⟨first, position, marks⟩)
    (behind : program.Leads text ⟨second, position, marks⟩ last) :
    program.Leads text ⟨state, position, marks⟩ last :=
  .of_second (successors_split here) cutOff behind

/-- A suffix of the text begins with the character at its position. -/
theorem getElem?_of_drop {chars : List Char} (stands : text.toList.drop position = chars) :
    text[position]? = chars.head? := by
  rw [← stands, List.head?_drop, Array.getElem?_toList]

theorem drop_add (front : List Char) {chars : List Char}
    (stands : text.toList.drop position = front ++ chars) :
    text.toList.drop (position + front.length) = chars := by
  rw [← List.drop_drop, stands, List.drop_left]

section Loops

variable (set : CharSet) (again exit : Nat) {body : Nat} {run rest : List Char}
variable (atBody : program.code[body]? = some (.one set again))
variable (atLoop : program.code[again]? = some (.split body exit))
variable (ends : ∀ c, rest.head? = some c → set.contains c = false)

include atBody atLoop ends

/-- A greedy loop over one set takes all of the characters that belong to it. -/
theorem Leads.loop (stands : text.toList.drop position = run ++ rest)
    (held : ∀ c ∈ run, set.contains c = true)
    (behind : program.Leads text ⟨exit, position + run.length, marks⟩ last) :
    program.Leads text ⟨again, position, marks⟩ last := by
  induction run generalizing position with
  | nil =>
      refine .alternative atLoop (.one set again atBody fun c read held => ?_) behind
      rw [getElem?_of_drop stands] at read
      rw [ends c read] at held
      cases held
  | cons c run inductionHypothesis =>
      obtain ⟨heldHere, heldBehind⟩ := List.forall_mem_cons.mp held
      refine .preferred atLoop (.one set again atBody (getElem?_of_drop stands) heldHere ?_)
      refine inductionHypothesis (drop_add [c] stands) heldBehind ?_
      rwa [List.length_cons, Nat.add_comm run.length, ← Nat.add_assoc] at behind

/-- A loop that begins with its body takes at least one character. -/
theorem Leads.onceOrMore (stands : text.toList.drop position = run ++ rest) (some : run ≠ [])
    (held : ∀ c ∈ run, set.contains c = true)
    (behind : program.Leads text ⟨exit, position + run.length, marks⟩ last) :
    program.Leads text ⟨body, position, marks⟩ last := by
  obtain ⟨c, run, rfl⟩ := List.exists_cons_of_ne_nil some
  obtain ⟨heldHere, heldBehind⟩ := List.forall_mem_cons.mp held
  refine .one set again atBody (getElem?_of_drop stands) heldHere ?_
  refine .loop set again exit atBody atLoop ends (drop_add [c] stands) heldBehind ?_
  rwa [List.length_cons, Nat.add_comm run.length, ← Nat.add_assoc] at behind

end Loops

end Instructions

/-! ## Marks do not matter -/

/-- Where a thread goes on to depends on its place alone. -/
theorem map_place_successors (same : thread.place = other.place) :
    (program.successors text thread).map (·.map Thread.place) =
      (program.successors text other).map (·.map Thread.place) := by
  obtain ⟨state, position, marks⟩ := thread
  obtain ⟨otherState, otherPosition, otherMarks⟩ := other
  obtain ⟨rfl, rfl⟩ := Prod.mk.inj same
  unfold successors
  rcases program.code[state]? with _ | instruction
  · rfl
  · cases instruction with
    | one set target =>
        rcases text[position]? with _ | c
        · rfl
        · cases held : set.contains c <;> simp [held, Thread.place]
    | look condition target =>
        by_cases holds :
          condition.holds (neighbours text position).1 (neighbours text position).2 = true
        · simp [holds, Thread.place]
        · simp [holds]
    | split first second => rfl
    | mark slot target => rfl
    | accept => rfl

theorem successors_eq_none_of_place (same : thread.place = other.place)
    (accepts : program.successors text thread = none) :
    program.successors text other = none := by
  have alike : Option.map _ (program.successors text thread) = _ := map_place_successors same
  rw [accepts] at alike
  exact Option.map_eq_none_iff.mp alike.symm

theorem exists_successors_of_place (same : thread.place = other.place)
    (leads : program.successors text thread = some threads) :
    ∃ others, program.successors text other = some others ∧
      others.map Thread.place = threads.map Thread.place := by
  have alike : Option.map _ (program.successors text thread) = _ := map_place_successors same
  rw [leads, Option.map_some] at alike
  obtain ⟨others, found, same⟩ := Option.map_eq_some_iff.mp alike.symm
  exact ⟨others, found, same⟩

/-- Each member of a list has its counterpart in a list of the same places. -/
theorem exists_mem_of_places {others : List Thread}
    (places : others.map Thread.place = threads.map Thread.place) (member : thread ∈ threads) :
    ∃ other ∈ others, other.place = thread.place :=
  List.mem_map.mp (places ▸ List.mem_map_of_mem member)

theorem Fails.of_place (fails : program.Fails text thread) (same : thread.place = other.place) :
    program.Fails text other := by
  induction fails generalizing other with
  | intro leads _ inductionHypothesis =>
      obtain ⟨others, leadsToo, places⟩ := exists_successors_of_place same leads
      refine .intro leadsToo fun next member => ?_
      obtain ⟨alike, memberToo, same⟩ := exists_mem_of_places places.symm member
      exact inductionHypothesis alike memberToo same

/-- What leads somewhere does not fail. -/
theorem LeadsIn.not_fails (leads : program.LeadsIn text steps thread last)
    (same : thread.place = other.place) : ¬ program.Fails text other := by
  induction leads generalizing other with
  | accept accepts =>
      rintro ⟨found, -⟩
      rw [successors_eq_none_of_place same accepts] at found
      cases found
  | step found _ _ inductionHypothesis =>
      rintro ⟨foundToo, cutOff⟩
      obtain ⟨others, foundAlike, places⟩ := exists_successors_of_place same found
      obtain rfl := Option.some.inj (foundToo.symm.trans foundAlike)
      obtain ⟨next, member, same⟩ := exists_mem_of_places places
        (List.mem_append_right _ List.mem_cons_self)
      exact inductionHypothesis same.symm (cutOff next member)

/-- Of two members of one list either is the other or stands behind it. -/
theorem eq_or_mem_of_append_cons {α : Type} {front front' back back' : List α} {x y : α}
    (same : front ++ x :: back = front' ++ y :: back') : x = y ∨ x ∈ front' ∨ y ∈ front := by
  rcases List.append_eq_append_iff.mp same with ⟨middle, rfl, rest⟩ | ⟨middle, rfl, rest⟩
  · cases middle with
    | nil => exact .inl (List.cons.inj rest).1
    | cons first middle =>
        obtain ⟨rfl, -⟩ := List.cons.inj rest
        exact .inr (.inl (List.mem_append_right _ List.mem_cons_self))
  · cases middle with
    | nil => exact .inl (List.cons.inj rest).1.symm
    | cons first middle =>
        obtain ⟨rfl, -⟩ := List.cons.inj rest
        exact .inr (.inr (List.mem_append_right _ List.mem_cons_self))

/-- Ways from one place take equally many steps. -/
theorem LeadsIn.steps_eq {otherSteps : Nat} {otherLast : Thread}
    (leads : program.LeadsIn text steps thread last) (same : thread.place = other.place)
    (leadsToo : program.LeadsIn text otherSteps other otherLast) : steps = otherSteps := by
  induction leads generalizing other otherSteps with
  | accept accepts =>
      cases leadsToo with
      | accept => rfl
      | step found =>
          rw [successors_eq_none_of_place same accepts] at found
          cases found
  | @step steps thread next last preferred others found cutOff behind inductionHypothesis =>
      cases leadsToo with
      | accept accepts =>
          rw [successors_eq_none_of_place same.symm accepts] at found
          cases found
      | @step otherSteps _ next' _ preferred' others' foundToo cutOffToo behindToo =>
          obtain ⟨_, foundAlike, places⟩ := exists_successors_of_place same found
          obtain rfl := Option.some.inj (foundToo.symm.trans foundAlike)
          rw [List.map_append, List.map_append, List.map_cons, List.map_cons] at places
          -- Neither thread is preferred to the other: what is preferred fails, and these lead on.
          rcases eq_or_mem_of_append_cons places with same | member | member
          · exact congrArg (· + 1) (inductionHypothesis same.symm behindToo)
          · obtain ⟨failing, member, same⟩ := List.mem_map.mp member
            exact absurd (cutOff failing member) (behindToo.not_fails same.symm)
          · obtain ⟨failing, member, same⟩ := List.mem_map.mp member
            exact absurd (cutOffToo failing member) (behind.not_fails same.symm)

/-! ## Exploring -/

/-- A thread that holds has been entered. -/
def Entered (program : Program) (visited : Visited) (thread : Thread) : Prop :=
  visited.getD (program.cell thread) true = true

/-- The table has a cell for every place, and the fuel lasts until every cell is entered and every
thread is dropped. -/
structure Ready (program : Program) (text : Array Char) (fuel : Nat) (threads : List Thread)
    (visited : Visited) : Prop where
  size_eq : visited.size = program.code.size * (text.size + 1)
  enough : 2 * visited.count false + threads.length < fuel
  holds : ∀ thread ∈ threads, program.Holds text thread

theorem cell_lt (holds : program.Holds text thread) :
    program.cell thread < program.code.size * (text.size + 1) := by
  obtain ⟨inside, withinText⟩ := holds
  calc program.cell thread
    _ < thread.position * program.code.size + program.code.size := Nat.add_lt_add_left inside _
    _ = program.code.size * (thread.position + 1) := by
        rw [Nat.mul_succ, Nat.mul_comm]
    _ ≤ program.code.size * (text.size + 1) :=
        Nat.mul_le_mul_left _ (Nat.succ_le_succ withinText)

/-- Different places have different cells. -/
theorem place_eq_of_cell_eq (holds : program.Holds text thread)
    (holdsToo : program.Holds text other) (same : program.cell thread = program.cell other) :
    thread.place = other.place := by
  have states : thread.state = other.state := by
    have remainders := congrArg (· % program.code.size) same
    simpa only [cell, Nat.mul_add_mod', Nat.mod_eq_of_lt holds.1, Nat.mod_eq_of_lt holdsToo.1]
      using remainders
  have positions : thread.position = other.position := by
    rw [cell, cell, states] at same
    exact Nat.eq_of_mul_eq_mul_right (Nat.zero_lt_of_lt holds.1) (Nat.add_right_cancel same)
  exact Prod.ext states positions

/-- Besides what was entered before, the table holds of the thread that has just been entered. -/
theorem entered_or_place_eq (holds : program.Holds text thread)
    (holdsToo : program.Holds text other)
    (entered : program.Entered (visited.setIfInBounds (program.cell thread) true) other) :
    program.Entered visited other ∨ thread.place = other.place := by
  by_cases same : program.cell thread = program.cell other
  · exact .inr (place_eq_of_cell_eq holds holdsToo same)
  · rw [Entered, Array.getD_eq_getD_getElem?, Array.getElem?_setIfInBounds_ne same,
      ← Array.getD_eq_getD_getElem?] at entered
    exact .inl entered

/-- One step leads to two threads at most, and within the program and the text. -/
theorem successors_hold (closed : program.IsClosed) (holds : program.Holds text thread)
    (leads : program.successors text thread = some threads) :
    threads.length ≤ 2 ∧ ∀ next ∈ threads, program.Holds text next := by
  obtain ⟨inside, withinText⟩ := holds
  unfold successors at leads
  rw [Array.getElem?_eq_getElem inside] at leads
  have targets := closed.2 _ (Array.getElem_mem_toList inside)
  generalize program.code[thread.state] = instruction at leads targets
  cases instruction with
  | one set target =>
      have target_lt := targets target List.mem_cons_self
      cases read : text[thread.position]? with
      | none => simp_all
      | some c =>
          have position_lt := (Array.getElem?_eq_some_iff.mp read).1
          simp only [read] at leads
          split at leads
          · cases leads
            exact ⟨Nat.le_succ 1, List.forall_mem_singleton.mpr ⟨target_lt, position_lt⟩⟩
          · cases leads
            exact ⟨Nat.zero_le 2, List.forall_mem_nil _⟩
  | look condition target =>
      have target_lt := targets target List.mem_cons_self
      simp only at leads
      split at leads
      · cases leads
        exact ⟨Nat.le_succ 1, List.forall_mem_singleton.mpr ⟨target_lt, withinText⟩⟩
      · cases leads
        exact ⟨Nat.zero_le 2, List.forall_mem_nil _⟩
  | split first second =>
      cases leads
      exact ⟨Nat.le_refl 2, by simpa [Holds, Instruction.targets, withinText] using targets⟩
  | mark slot target =>
      cases leads
      exact ⟨Nat.le_succ 1, by simpa [Holds, Instruction.targets, withinText] using targets⟩
  | accept => cases leads

theorem Ready.drop (ready : program.Ready text (fuel + 1) (thread :: rest) visited) :
    program.Ready text fuel rest visited where
  size_eq := ready.size_eq
  enough := by
    have enough := ready.enough
    rw [List.length_cons] at enough
    omega
  holds := (List.forall_mem_cons.mp ready.holds).2

theorem Ready.enter (closed : program.IsClosed)
    (ready : program.Ready text (fuel + 1) (thread :: rest) visited)
    (fresh : ¬ program.Entered visited thread)
    (leads : program.successors text thread = some threads) :
    program.Ready text fuel (threads ++ rest)
      (visited.setIfInBounds (program.cell thread) true) where
  size_eq := by rw [Array.size_setIfInBounds, ready.size_eq]
  enough := by
    obtain ⟨holds, -⟩ := List.forall_mem_cons.mp ready.holds
    have inside : program.cell thread < visited.size := ready.size_eq ▸ cell_lt holds
    have few := (successors_hold closed holds leads).1
    have enough := ready.enough
    rw [Entered, Array.getD_eq_getD_getElem?, Array.getElem?_eq_getElem inside, Option.getD_some,
      Bool.not_eq_true] at fresh
    have positive : 0 < visited.count false :=
      Array.count_pos_iff.mpr (fresh ▸ Array.getElem_mem inside)
    rw [Array.setIfInBounds, dif_pos inside, Array.count_set inside, fresh, List.length_append]
    rw [List.length_cons] at enough
    simp only [beq_self_eq_true, if_true, Bool.true_beq, Bool.false_eq_true, if_false]
    omega
  holds := by
    obtain ⟨holds, holdsRest⟩ := List.forall_mem_cons.mp ready.holds
    exact List.forall_mem_append.mpr ⟨(successors_hold closed holds leads).2, holdsRest⟩

theorem explore_of_entered (entered : program.Entered visited thread) :
    program.explore text (fuel + 1) (thread :: rest) visited =
      program.explore text fuel rest visited := by
  rw [Entered] at entered
  rw [explore, if_pos entered]

theorem explore_of_fresh (fresh : ¬ program.Entered visited thread)
    (leads : program.successors text thread = some threads) :
    program.explore text (fuel + 1) (thread :: rest) visited =
      program.explore text fuel (threads ++ rest)
        (visited.setIfInBounds (program.cell thread) true) := by
  rw [Entered] at fresh
  rw [explore, if_neg fresh]
  simp only [leads]

/-- The machine drops the threads, whatever stands behind them, and enters nothing but what
fails. -/
def Drops (program : Program) (text : Array Char) (threads : List Thread) : Prop :=
  ∀ fuel rest visited, program.Ready text fuel (threads ++ rest) visited →
    ∃ fuel' visited', program.Ready text fuel' rest visited' ∧
      program.explore text fuel (threads ++ rest) visited =
        program.explore text fuel' rest visited' ∧
      ∀ other, program.Holds text other → program.Entered visited' other →
        program.Entered visited other ∨ program.Fails text other

theorem Drops.nil : program.Drops text [] := fun _ _ _ ready =>
  ⟨_, _, ready, rfl, fun _ _ entered => .inl entered⟩

theorem Drops.cons (first : program.Drops text [thread]) (others : program.Drops text threads) :
    program.Drops text (thread :: threads) := by
  intro fuel rest visited ready
  obtain ⟨fuel₁, visited₁, ready₁, explored₁, entered₁⟩ := first _ _ _ ready
  obtain ⟨fuel₂, visited₂, ready₂, explored₂, entered₂⟩ := others _ _ _ ready₁
  refine ⟨fuel₂, visited₂, ready₂, explored₁.trans explored₂, fun other holds entered => ?_⟩
  rcases entered₂ other holds entered with entered | fails
  · exact entered₁ other holds entered
  · exact .inr fails

theorem Drops.of_forall (each : ∀ thread ∈ threads, program.Drops text [thread]) :
    program.Drops text threads := by
  induction threads with
  | nil => exact .nil
  | cons thread threads inductionHypothesis =>
      obtain ⟨first, others⟩ := List.forall_mem_cons.mp each
      exact first.cons (inductionHypothesis others)

/-- What fails is dropped. -/
theorem Fails.drops (closed : program.IsClosed) (fails : program.Fails text thread) :
    program.Drops text [thread] := by
  induction fails with
  | @intro thread threads leads cutOff inductionHypothesis =>
      intro fuel rest visited ready
      obtain ⟨holds, -⟩ := List.forall_mem_cons.mp ready.holds
      obtain _ | fuel := fuel
      · exact absurd ready.enough (Nat.not_lt_zero _)
      by_cases entered : program.Entered visited thread
      · exact ⟨fuel, visited, ready.drop, explore_of_entered entered,
          fun _ _ entered => .inl entered⟩
      · obtain ⟨fuel', visited', ready', explored, enteredOnly⟩ :=
          Drops.of_forall inductionHypothesis _ _ _ (ready.enter closed entered leads)
        refine ⟨fuel', visited', ready', (explore_of_fresh entered leads).trans explored,
          fun other holdsToo enteredToo => ?_⟩
        rcases enteredOnly other holdsToo enteredToo with enteredToo | failsToo
        · rcases entered_or_place_eq holds holdsToo enteredToo with before | same
          · exact .inl before
          · exact .inr ((Fails.intro leads cutOff).of_place same)
        · exact .inr failsToo

/-- No thread that was entered leads anywhere in so few steps. -/
def NoneLeadsIn (program : Program) (text : Array Char) (visited : Visited) (steps : Nat) : Prop :=
  ∀ other, program.Holds text other → program.Entered visited other →
    ∀ fewer ≤ steps, ∀ last, ¬ program.LeadsIn text fewer other last

/-- What leads somewhere is followed. -/
theorem LeadsIn.explore (closed : program.IsClosed)
    (leads : program.LeadsIn text steps thread last)
    (ready : program.Ready text fuel (thread :: rest) visited)
    (none : program.NoneLeadsIn text visited steps) :
    ∃ visited', program.explore text fuel (thread :: rest) visited = (some last, visited') := by
  induction leads generalizing fuel rest visited with
  | @accept thread accepts =>
      obtain ⟨holds, -⟩ := List.forall_mem_cons.mp ready.holds
      obtain _ | fuel := fuel
      · exact absurd ready.enough (Nat.not_lt_zero _)
      have fresh : ¬ program.Entered visited thread := fun entered =>
        none thread holds entered 0 (Nat.le_refl 0) thread (.accept accepts)
      rw [Entered] at fresh
      rw [Program.explore, if_neg fresh]
      simp only [accepts]
      exact ⟨_, rfl⟩
  | @step steps thread next last preferred others leads cutOff behind inductionHypothesis =>
      obtain ⟨holds, -⟩ := List.forall_mem_cons.mp ready.holds
      obtain _ | fuel := fuel
      · exact absurd ready.enough (Nat.not_lt_zero _)
      have leadsOn := LeadsIn.step leads cutOff behind
      have fresh : ¬ program.Entered visited thread := fun entered =>
        none thread holds entered _ (Nat.le_refl _) last leadsOn
      have entering := ready.enter closed fresh leads
      rw [List.append_assoc] at entering
      obtain ⟨fuel', visited', ready', explored, enteredOnly⟩ :=
        Drops.of_forall (fun thread member => (cutOff thread member).drops closed) _ _ _ entering
      rw [explore_of_fresh fresh leads, List.append_assoc, explored]
      refine inductionHypothesis ready' fun other holdsToo entered fewer few last leadsToo => ?_
      rcases enteredOnly other holdsToo entered with entered | fails
      · rcases entered_or_place_eq holds holdsToo entered with before | same
        · exact none other holdsToo before fewer (Nat.le_succ_of_le few) last leadsToo
        -- The thread that has just been entered leads on in one step more than what is left.
        · have := leadsOn.steps_eq same leadsToo
          omega
      · exact leadsToo.not_fails rfl fails

/-! ## Searching -/

/-- The thread with which a match from a position begins. -/
def entryAt (program : Program) (position : Nat) : Thread :=
  ⟨program.entry, position, []⟩

/-- A table of visits in which nothing is entered but what fails. -/
structure Surveyed (program : Program) (text : Array Char) (visited : Visited) : Prop where
  size_eq : visited.size = program.code.size * (text.size + 1)
  fails : ∀ thread, program.Holds text thread → program.Entered visited thread →
    program.Fails text thread

theorem surveyed_replicate :
    program.Surveyed text (Array.replicate (program.code.size * (text.size + 1)) false) where
  size_eq := Array.size_replicate
  fails thread holds entered := by
    rw [Entered, Array.getD_eq_getD_getElem?, Array.getElem?_replicate, if_pos (cell_lt holds)]
      at entered
    cases entered

theorem Surveyed.ready (closed : program.IsClosed) (surveyed : program.Surveyed text visited)
    (withinText : position ≤ text.size) :
    program.Ready text (program.exploreFuel text) [program.entryAt position] visited where
  size_eq := surveyed.size_eq
  enough := by
    have few : visited.count false ≤ visited.size := Array.count_le_size
    rw [surveyed.size_eq] at few
    rw [exploreFuel, List.length_singleton]
    omega
  holds := List.forall_mem_singleton.mpr ⟨closed.1, withinText⟩

theorem explore_nil (fuel : Nat) (visited : Visited) :
    program.explore text fuel [] visited = (none, visited) := by
  cases fuel <;> rfl

/-- Where nothing begins the machine goes on with the next start. -/
theorem scan_of_fails (count : Nat) {start : Nat} (closed : program.IsClosed)
    (surveyed : program.Surveyed text visited) (withinText : start ≤ text.size)
    (fails : program.Fails text (program.entryAt start)) :
    ∃ visited', program.Surveyed text visited' ∧
      program.scan text (count + 1) start visited =
        program.scan text count (start + 1) visited' := by
  obtain ⟨fuel', visited', ready', explored, enteredOnly⟩ :=
    fails.drops closed _ _ _ (surveyed.ready closed withinText)
  refine ⟨visited', ⟨ready'.size_eq, fun thread holds entered => ?_⟩, ?_⟩
  · rcases enteredOnly thread holds entered with before | fails
    · exact surveyed.fails thread holds before
    · exact fails
  · rw [List.singleton_append, explore_nil, entryAt] at explored
    rw [scan]
    simp only [explored]

theorem scan_of_leads {count start : Nat} (closed : program.IsClosed)
    (surveyed : program.Surveyed text visited) (withinText : start ≤ text.size)
    (leads : program.Leads text (program.entryAt start) last) :
    program.scan text (count + 1) start visited = some ⟨start, last.position, last.marks⟩ := by
  obtain ⟨steps, leads⟩ := leads
  obtain ⟨visited', explored⟩ := leads.explore closed (surveyed.ready closed withinText)
    fun other holds entered fewer _ last leadsToo =>
      leadsToo.not_fails rfl (surveyed.fails other holds entered)
  rw [entryAt] at explored
  rw [scan]
  simp only [explored]

variable {start found count : Nat}

theorem scan_eq_some (closed : program.IsClosed) (surveyed : program.Surveyed text visited)
    (whole : start + count = text.size + 1) (start_le : start ≤ found)
    (withinText : found ≤ text.size)
    (fails : ∀ earlier, start ≤ earlier → earlier < found →
      program.Fails text (program.entryAt earlier))
    (leads : program.Leads text (program.entryAt found) last) :
    program.scan text count start visited = some ⟨found, last.position, last.marks⟩ := by
  induction count generalizing start visited with
  | zero => omega
  | succ count inductionHypothesis =>
      rcases Nat.eq_or_lt_of_le start_le with rfl | later
      · exact scan_of_leads closed surveyed withinText leads
      · obtain ⟨visited', surveyed', scanned⟩ := scan_of_fails count closed surveyed
          (Nat.le_trans start_le withinText) (fails start (Nat.le_refl start) later)
        rw [scanned]
        exact inductionHypothesis surveyed' (by omega) later fun earlier behind =>
          fails earlier (Nat.le_of_succ_le behind)

theorem scan_eq_none (closed : program.IsClosed) (surveyed : program.Surveyed text visited)
    (whole : start + count = text.size + 1)
    (fails : ∀ position, start ≤ position → position ≤ text.size →
      program.Fails text (program.entryAt position)) :
    program.scan text count start visited = none := by
  induction count generalizing start visited with
  | zero => rfl
  | succ count inductionHypothesis =>
      obtain ⟨visited', surveyed', scanned⟩ := scan_of_fails count closed surveyed
        (by omega) (fails start (Nat.le_refl start) (by omega))
      rw [scanned]
      exact inductionHypothesis surveyed' (by omega) fun position behind =>
        fails position (Nat.le_of_succ_le behind)

/-- The first match begins at the first position from which there is a way to accept. -/
theorem findFrom_eq_some (closed : program.IsClosed) (start_le : start ≤ found)
    (withinText : found ≤ text.size)
    (fails : ∀ earlier, start ≤ earlier → earlier < found →
      program.Fails text (program.entryAt earlier))
    (leads : program.Leads text (program.entryAt found) last) :
    program.findFrom text start = some ⟨found, last.position, last.marks⟩ :=
  scan_eq_some closed surveyed_replicate (by omega) start_le withinText fails leads

/-- There is no match if there is no way to accept. -/
theorem findFrom_eq_none (closed : program.IsClosed) (start_le : start ≤ text.size + 1)
    (fails : ∀ position, start ≤ position → position ≤ text.size →
      program.Fails text (program.entryAt position)) :
    program.findFrom text start = none :=
  scan_eq_none closed surveyed_replicate (by omega) fails

/-- Behind a match that is not empty the search goes on where the match ends. -/
theorem hitsFrom_cons {lastStop : Option Nat} {hit : Hit}
    (hits : program.findFrom text start = some hit) (takes : hit.start ≠ hit.stop) :
    program.hitsFrom text (fuel + 1) start lastStop =
      hit :: program.hitsFrom text fuel hit.stop (some hit.stop) := by
  rw [hitsFrom]
  simp only [hits, takes, false_and, if_false]

theorem hitsFrom_nil {lastStop : Option Nat} (hits : program.findFrom text start = none) :
    program.hitsFrom text fuel start lastStop = [] := by
  cases fuel with
  | zero => rfl
  | succ fuel =>
      rw [hitsFrom]
      simp only [hits]

end Program

end LogQuery.Regex
