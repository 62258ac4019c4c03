/-
This file shows that ways which move over a text together, and of which the preferred one passes a step first, find
what a search finds that tries the ways one after another.
-/
import Stencil.Pattern.Basic

namespace Stencil.Pattern

/-- The finish of a way that had some marks before. -/
def Finish.after (finish : Finish) (marks : List Mark) : Finish := ⟨finish.stop, finish.marks ++ marks⟩

@[simp] theorem Finish.after_nil (finish : Finish) : finish.after [] = finish := by
  rw [Finish.after, List.append_nil]

@[simp] theorem Finish.after_after (finish : Finish) (marks earlier : List Mark) :
    (finish.after marks).after earlier = finish.after (marks ++ earlier) := by
  simp only [Finish.after, List.append_assoc]

namespace Program

/-- A search tries the first way on from a fork, and the second where the first fails. It gives no answer when its
fuel is used up. -/
def search? (program : Program) (text : Array Char) : (fuel address position : Nat) → Option (Option Finish)
  | 0, _, _ => none
  | fuel + 1, address, position =>
      match program.steps[address]? with
      | some (.read charset next) =>
          if text[position]?.any charset.contains then search? program text fuel next (position + 1)
          else some none
      | some (.check look next) =>
          if look.holds text position then search? program text fuel next position else some none
      | some (.mark slot next) =>
          (search? program text fuel next position).map fun found? =>
            found?.map fun finish => finish.after [⟨slot, position⟩]
      | some (.fork first second) =>
          (search? program text fuel first position).bind fun found? =>
            match found? with
            | some finish => some (some finish)
            | none => search? program text fuel second position
      | some .accept => some (some ⟨position, []⟩)
      | some .never | none => some none

/-- A search from an address and a position has a result. -/
def Results (program : Program) (text : Array Char) (address position : Nat) (found? : Option Finish) : Prop :=
  ∃ fuel, program.search? text fuel address position = some found?

section

variable {program : Program} {text : Array Char} {address position fuel : Nat} {found? : Option Finish}

/-- More fuel does not change an answer. -/
theorem search?_succ (answer : program.search? text fuel address position = some found?) :
    program.search? text (fuel + 1) address position = some found? := by
  induction fuel generalizing address position found? with
  | zero => cases answer
  | succ fuel ih =>
      rw [search?] at answer ⊢
      split at answer
      · split at answer
        · next reads =>
            rw [if_pos reads]
            exact ih answer
        · next refuses =>
            rw [if_neg refuses]
            exact answer
      · split at answer
        · next holds =>
            rw [if_pos holds]
            exact ih answer
        · next fails =>
            rw [if_neg fails]
            exact answer
      · obtain ⟨found, searched, rfl⟩ := Option.map_eq_some_iff.1 answer
        exact Option.map_eq_some_iff.2 ⟨found, ih searched, rfl⟩
      · obtain ⟨found, searched, later⟩ := Option.bind_eq_some_iff.1 answer
        refine Option.bind_eq_some_iff.2 ⟨found, ih searched, ?_⟩
        cases found with
        | some finish => exact later
        | none => exact ih later
      · exact answer
      · exact answer
      · exact answer

theorem search?_mono (answer : program.search? text fuel address position = some found?) {more : Nat}
    (enough : fuel ≤ more) : program.search? text more address position = some found? := by
  obtain ⟨extra, rfl⟩ := Nat.exists_eq_add_of_le enough
  clear enough
  induction extra with
  | zero => exact answer
  | succ extra ih => exact search?_succ ih

/-- A search has one result. -/
theorem Results.unique {other? : Option Finish} (results : program.Results text address position found?)
    (resultsToo : program.Results text address position other?) : found? = other? := by
  obtain ⟨fuel, answer⟩ := results
  obtain ⟨more, answerToo⟩ := resultsToo
  have first := search?_mono answer (Nat.le_max_left fuel more)
  rw [search?_mono answerToo (Nat.le_max_right fuel more)] at first
  exact (Option.some.inj first).symm

end

end Program

/-- The way waits at a step that reads or accepts. -/
def Way.waits (program : Program) (way : Way) : Bool :=
  match program.steps[way.address]? with
  | some (.read _ _) | some .accept => true
  | _ => false

/-- The ways on from a way that does not wait, in the order of their preference. -/
def Way.leads (program : Program) (text : Array Char) (position : Nat) (way : Way) : List Way :=
  match program.steps[way.address]? with
  | some (.check look next) => if look.holds text position then [⟨next, way.marks⟩] else []
  | some (.mark slot next) => [⟨next, ⟨slot, position⟩ :: way.marks⟩]
  | some (.fork first second) => [⟨first, way.marks⟩, ⟨second, way.marks⟩]
  | _ => []

/-- A way passes its step. -/
def Front.pass (program : Program) (front : Front) (way : Way) : Front where
  passed := front.passed.setIfInBounds way.address true
  waiting := if way.waits program then way :: front.waiting else front.waiting

section

variable {program : Program} {text : Array Char} {position : Nat} {front : Front} {way : Way} {rest : List Way}

theorem follow_nil : follow program text position front [] = front := by
  rw [follow]

/-- A step that was passed before, or is none, is not passed again. -/
theorem follow_skip (passed : front.passed[way.address]? ≠ some false) :
    follow program text position front (way :: rest) = follow program text position front rest := by
  rw [follow]
  split
  · next inside =>
      split
      · next free => exact absurd (by rw [Array.getElem?_eq_getElem inside, free]) passed
      · rfl
  · rfl

/-- A step that was not passed before is passed, and the ways on from it are followed first. -/
theorem follow_fresh (free : front.passed[way.address]? = some false) :
    follow program text position front (way :: rest) =
      follow program text position (front.pass program way) (way.leads program text position ++ rest) := by
  obtain ⟨inside, free⟩ := Array.getElem?_eq_some_iff.1 free
  rw [follow, dif_pos inside, dif_pos free, Front.pass, Way.waits, Way.leads, Array.setIfInBounds, dif_pos inside]
  rcases program.steps[way.address]? with _ | step
  · rfl
  · cases step with
    | check look next =>
        dsimp only
        split <;> rfl
    | read | mark | fork | accept | never => rfl

/-- What waits stays, and other ways wait behind it. -/
theorem follow_waiting (program : Program) (text : Array Char) (position : Nat) (front : Front) (ways : List Way) :
    ∃ more, (follow program text position front ways).waiting = more ++ front.waiting := by
  fun_induction follow program text position front ways with
  | case1 => exact ⟨[], rfl⟩
  | case2 front way rest _ _ _ _ _ _ ih | case3 front way rest _ _ _ _ ih =>
      obtain ⟨more, same⟩ := ih
      exact ⟨more ++ [way], by rw [same, List.append_assoc, List.singleton_append]⟩
  | _ => assumption

section

variable {fuel : Nat}

/-- Where a search fails it fails from each way on. -/
theorem search?_leads (failed : program.search? text (fuel + 1) way.address position = some none) :
    ∀ lead ∈ way.leads program text position, program.search? text fuel lead.address position = some none := by
  rw [Program.search?] at failed
  rw [Way.leads]
  generalize program.steps[way.address]? = step? at failed ⊢
  rcases step? with _ | step
  · exact nofun
  · cases step with
    | check look next =>
        dsimp only at failed ⊢
        split at failed
        · next holds =>
            rw [if_pos holds]
            exact List.forall_mem_singleton.2 failed
        · next fails =>
            rw [if_neg fails]
            exact nofun
    | mark slot next =>
        obtain ⟨found, searched, none⟩ := Option.map_eq_some_iff.1 failed
        rw [Option.map_eq_none_iff.1 none] at searched
        exact List.forall_mem_singleton.2 searched
    | fork first second =>
        obtain ⟨found, searched, later⟩ := Option.bind_eq_some_iff.1 failed
        cases found with
        | some finish => cases later
        | none => exact List.forall_mem_cons.2 ⟨searched, List.forall_mem_singleton.2 later⟩
    | read | accept | never => exact nofun

/-- Where a search succeeds without waiting it succeeds from a way on, and fails from those before it. -/
theorem search?_finds {finish : Finish}
    (found : program.search? text (fuel + 1) way.address position = some (some finish))
    (goesOn : way.waits program = false) : ∃ failing lead others added,
      way.leads program text position = failing ++ lead :: others ∧
      (∀ other ∈ failing, program.search? text fuel other.address position = some none) ∧
      program.search? text fuel lead.address position = some (some added) ∧
      added.after lead.marks = finish.after way.marks := by
  rw [Program.search?] at found
  rw [Way.waits] at goesOn
  rw [Way.leads]
  generalize program.steps[way.address]? = step? at found goesOn ⊢
  rcases step? with _ | step
  · cases found
  · cases step with
    | check look next =>
        dsimp only at found ⊢
        split at found
        · next holds =>
            rw [if_pos holds]
            exact ⟨[], _, [], finish, rfl, nofun, found, rfl⟩
        · cases found
    | mark slot next =>
        obtain ⟨searched?, searched, same⟩ := Option.map_eq_some_iff.1 found
        obtain ⟨added, rfl, rfl⟩ := Option.map_eq_some_iff.1 same
        refine ⟨[], _, [], added, rfl, nofun, searched, ?_⟩
        rw [Finish.after_after]
        rfl
    | fork first second =>
        obtain ⟨searched?, searched, later⟩ := Option.bind_eq_some_iff.1 found
        cases searched? with
        | some added =>
            cases later
            exact ⟨[], _, _, finish, rfl, nofun, searched, rfl⟩
        | none =>
            refine ⟨[⟨first, way.marks⟩], ⟨second, way.marks⟩, [], finish, rfl, ?_, later, rfl⟩
            exact List.forall_mem_singleton.2 searched
    | read | accept => cases goesOn
    | never => cases found

end

/-- Behind ways that fail only steps that fail were passed, and only ways that fail wait. -/
structure Front.Grows (program : Program) (text : Array Char) (position : Nat) (front later : Front) : Prop where
  size : later.passed.size = front.passed.size
  passed : ∀ address, later.passed[address]? = some true →
    front.passed[address]? = some true ∨ program.Results text address position none
  waiting : ∃ leaves, later.waiting = leaves ++ front.waiting ∧
    ∀ leaf ∈ leaves, program.Results text leaf.address position none

theorem Front.Grows.refl (front : Front) : front.Grows program text position front where
  size := rfl
  passed _ passed := .inl passed
  waiting := ⟨[], rfl, nofun⟩

theorem Front.Grows.trans {later last : Front} (first : front.Grows program text position later)
    (second : later.Grows program text position last) : front.Grows program text position last where
  size := second.size.trans first.size
  passed address passed := (second.passed address passed).elim (first.passed address) .inr
  waiting := by
    obtain ⟨leaves, same, failing⟩ := first.waiting
    obtain ⟨others, sameToo, failingToo⟩ := second.waiting
    exact ⟨others ++ leaves, by rw [sameToo, same, List.append_assoc], List.forall_mem_append.2 ⟨failingToo, failing⟩⟩

/-- The steps that are passed behind a way are its own and those passed before. -/
theorem Front.passed_pass {address : Nat} (passed : (front.pass program way).passed[address]? = some true) :
    address = way.address ∨ front.passed[address]? = some true := by
  rw [pass, Array.getElem?_setIfInBounds] at passed
  split at passed
  · next same => exact .inl same.symm
  · exact .inr passed

theorem Front.Grows.pass (failed : program.Results text way.address position none) :
    front.Grows program text position (front.pass program way) where
  size := Array.size_setIfInBounds
  passed address passed := by
    rcases front.passed_pass passed with rfl | before
    · exact .inr failed
    · exact .inl before
  waiting := by
    rw [Front.pass]
    split
    · exact ⟨[way], rfl, List.forall_mem_singleton.2 failed⟩
    · exact ⟨[], rfl, nofun⟩

/-- Ways are followed one after another. -/
theorem follow_each {ways : List Way}
    (each : ∀ way ∈ ways, ∀ front : Front, ∃ later, front.Grows program text position later ∧
      ∀ rest, follow program text position front (way :: rest) = follow program text position later rest)
    (front : Front) : ∃ later, front.Grows program text position later ∧
      ∀ rest, follow program text position front (ways ++ rest) = follow program text position later rest := by
  induction ways generalizing front with
  | nil => exact ⟨front, .refl front, fun _ => rfl⟩
  | cons way ways ih =>
      obtain ⟨here, others⟩ := List.forall_mem_cons.1 each
      obtain ⟨middle, grows, same⟩ := here front
      obtain ⟨later, growsToo, sameToo⟩ := ih others middle
      exact ⟨later, grows.trans growsToo, fun rest => (same _).trans (sameToo rest)⟩

/-- A way from which a search fails is followed, and then the ways behind it. -/
theorem follow_failing {fuel : Nat} (failed : program.search? text fuel way.address position = some none)
    (front : Front) : ∃ later, front.Grows program text position later ∧
      ∀ rest, follow program text position front (way :: rest) = follow program text position later rest := by
  induction fuel generalizing way front with
  | zero => cases failed
  | succ fuel ih =>
      by_cases fresh : front.passed[way.address]? = some false
      · obtain ⟨later, grows, same⟩ :=
          follow_each (fun lead member front => ih (search?_leads failed lead member) front) (front.pass program way)
        exact ⟨later, (Front.Grows.pass ⟨_, failed⟩).trans grows, fun rest => (follow_fresh fresh).trans (same rest)⟩
      · exact ⟨front, .refl front, fun _ => follow_skip fresh⟩

/-- A way waits from which a search succeeds as it does from another one. -/
structure Way.Catches (program : Program) (text : Array Char) (position : Nat) (finish : Finish) (way : Way) :
    Prop where
  waits : way.waits program = true
  finds : ∃ added, program.Results text way.address position (some added) ∧ added.after way.marks = finish

/-- Of the steps that were passed before a search each fails, or the search from it takes more fuel. -/
structure Front.Spent (program : Program) (text : Array Char) (position fuel : Nat) (front : Front) : Prop where
  size : front.passed.size = program.steps.size
  passed : ∀ address, front.passed[address]? = some true →
    program.search? text fuel address position = none ∨ program.Results text address position none

namespace Front.Spent

variable {fuel : Nat}

theorem less (spent : front.Spent program text position (fuel + 1)) : front.Spent program text position fuel where
  size := spent.size
  passed address passed := by
    refine (spent.passed address passed).imp_left fun none => ?_
    cases answer : program.search? text fuel address position with
    | none => rfl
    | some found? =>
        rw [Program.search?_succ answer] at none
        cases none

/-- The step from which a search succeeds was not passed. -/
theorem fresh {finish : Finish} (spent : front.Spent program text position (fuel + 1))
    (found : program.search? text (fuel + 1) way.address position = some (some finish)) :
    front.passed[way.address]? = some false := by
  have inside : way.address < front.passed.size := by
    rw [spent.size]
    refine Nat.lt_of_not_le fun outside => ?_
    rw [Program.search?, Array.getElem?_eq_none outside] at found
    cases found
  rw [Array.getElem?_eq_getElem inside]
  cases passed : front.passed[way.address] with
  | false => rfl
  | true =>
      rcases spent.passed way.address (by rw [Array.getElem?_eq_getElem inside, passed]) with none | failed
      · rw [found] at none
        cases none
      · cases failed.unique ⟨_, found⟩

/-- A step that takes more fuel is passed, and then steps that fail. -/
theorem of_grows {later : Front} (spent : front.Spent program text position fuel)
    (early : program.search? text fuel way.address position = none)
    (grows : (front.pass program way).Grows program text position later) : later.Spent program text position fuel where
  size := grows.size.trans (Array.size_setIfInBounds.trans spent.size)
  passed address passed := by
    rcases grows.passed address passed with before | failed
    · rcases front.passed_pass before with rfl | before
      · exact .inl early
      · exact spent.passed address before
    · exact .inr failed

end Front.Spent

/-- A way from which a search succeeds comes to one that waits. Before it only ways wait that fail. -/
theorem follow_finding {fuel : Nat} {finish : Finish}
    (found : program.search? text fuel way.address position = some (some finish))
    (spent : front.Spent program text position fuel) :
    ∃ last leaves, last.Catches program text position (finish.after way.marks) ∧
      (∀ leaf ∈ leaves, program.Results text leaf.address position none) ∧
      ∀ rest, ∃ more, (follow program text position front (way :: rest)).waiting =
        more ++ last :: (leaves ++ front.waiting) := by
  induction fuel generalizing way front finish with
  | zero => cases found
  | succ fuel ih =>
      -- With the least fuel that is enough the search passes no step twice.
      cases early : program.search? text fuel way.address position with
      | some found? =>
          have same := Program.search?_succ early
          rw [found] at same
          cases same
          exact ih early spent.less
      | none =>
          simp only [follow_fresh (spent.fresh found)]
          cases waiting : way.waits program with
          | true =>
              refine ⟨way, [], ⟨waiting, finish, ⟨_, found⟩, rfl⟩, nofun, fun rest => ?_⟩
              obtain ⟨more, same⟩ := follow_waiting program text position (front.pass program way)
                (way.leads program text position ++ rest)
              exact ⟨more, by rw [same, Front.pass, waiting]; rfl⟩
          | false =>
              obtain ⟨failing, lead, others, added, leads, fails, finds, same⟩ := search?_finds found waiting
              obtain ⟨later, grows, follows⟩ :=
                follow_each (fun other member front => follow_failing (fails other member) front)
                  (front.pass program way)
              obtain ⟨last, leaves, catches, failingLeaves, waits⟩ := ih finds (spent.less.of_grows early grows)
              obtain ⟨earlier, waitsLater, failingEarlier⟩ := grows.waiting
              refine ⟨last, leaves ++ earlier, same ▸ catches,
                List.forall_mem_append.2 ⟨failingLeaves, failingEarlier⟩, fun rest => ?_⟩
              obtain ⟨more, waits⟩ := waits (others ++ rest)
              refine ⟨more, ?_⟩
              rw [leads, List.append_assoc, List.cons_append, follows, waits, waitsLater, Front.pass, waiting,
                List.append_assoc]
              rfl

/-- Ways that fail are followed, and then the ways behind them. -/
theorem follow_all_failing {ways : List Way} (failing : ∀ way ∈ ways, program.Results text way.address position none)
    (front : Front) : ∃ later, front.Grows program text position later ∧
      ∀ rest, follow program text position front (ways ++ rest) = follow program text position later rest := by
  refine follow_each (fun way member front => ?_) front
  obtain ⟨fuel, failed⟩ := failing way member
  exact follow_failing failed front

/-- At first no step is passed. -/
def Front.fresh (program : Program) : Front := ⟨Array.replicate program.steps.size false, []⟩

theorem Front.not_passed_fresh (address : Nat) : (Front.fresh program).passed[address]? ≠ some true := by
  rw [fresh, Array.getElem?_replicate]
  split <;> simp

/-- Ways that fail come to ways that fail. -/
theorem settle_failing {ways : List Way} (failing : ∀ way ∈ ways, program.Results text way.address position none) :
    ∀ way ∈ settle program text position ways, program.Results text way.address position none := by
  obtain ⟨later, grows, same⟩ := follow_all_failing failing (Front.fresh program)
  obtain ⟨leaves, waits, fails⟩ := grows.waiting
  intro way member
  change way ∈ (follow program text position (Front.fresh program) ways).waiting.reverse at member
  rw [← List.append_nil ways, same, follow_nil, waits, List.mem_reverse, Front.fresh, List.append_nil] at member
  exact fails way member

/-- Behind ways that fail, a way that succeeds comes to one that waits, and only ways that fail wait before it. -/
theorem settle_finding {failing : List Way} {finish : Finish}
    (fails : ∀ way ∈ failing, program.Results text way.address position none)
    (finds : program.Results text way.address position (some finish)) (rest : List Way) :
    ∃ leaves last more, settle program text position (failing ++ way :: rest) = leaves ++ last :: more ∧
      last.Catches program text position (finish.after way.marks) ∧
      ∀ leaf ∈ leaves, program.Results text leaf.address position none := by
  obtain ⟨later, grows, same⟩ := follow_all_failing fails (Front.fresh program)
  obtain ⟨fuel, found⟩ := finds
  have spent : later.Spent program text position fuel :=
    { size := grows.size.trans Array.size_replicate
      passed := fun address passed =>
        .inr ((grows.passed address passed).resolve_left (Front.not_passed_fresh address)) }
  obtain ⟨last, leaves, catches, failingLeaves, waits⟩ := follow_finding found spent
  obtain ⟨earlier, waitsLater, failingEarlier⟩ := grows.waiting
  obtain ⟨more, waits⟩ := waits rest
  refine ⟨(leaves ++ earlier).reverse, last, more.reverse, ?_, catches, ?_⟩
  · change (follow program text position (Front.fresh program) (failing ++ way :: rest)).waiting.reverse = _
    rw [same, waits, waitsLater, Front.fresh, List.append_nil]
    simp only [List.reverse_append, List.reverse_cons, List.append_assoc, List.cons_append, List.nil_append]
  · intro leaf member
    rcases List.mem_append.1 (List.mem_reverse.1 member) with here | before
    · exact failingLeaves leaf here
    · exact failingEarlier leaf before

/-- From a step that accepts no search fails. -/
theorem accepts_failing (failed : program.Results text way.address position none) : accepts program way = false := by
  obtain ⟨fuel, failed⟩ := failed
  cases fuel with
  | zero => cases failed
  | succ fuel =>
      rw [Program.search?] at failed
      rw [accepts]
      generalize program.steps[way.address]? = step? at failed ⊢
      rcases step? with _ | step
      · rfl
      · cases step with
        | accept => cases failed
        | read | check | mark | fork | never => rfl

/-- From a step that reads the character of a text a search goes on behind the character. -/
theorem advance?_results {character : Char} (here : text[position]? = some character) {next : Way}
    (advances : advance? program character way = some next) {found? : Option Finish}
    (results : program.Results text way.address position found?) :
    next.marks = way.marks ∧ program.Results text next.address (position + 1) found? := by
  obtain ⟨fuel, answer⟩ := results
  cases fuel with
  | zero => cases answer
  | succ fuel =>
      rw [Program.search?, here] at answer
      rw [advance?] at advances
      generalize program.steps[way.address]? = step? at answer advances
      rcases step? with _ | step
      · cases advances
      · cases step with
        | read charset next =>
            dsimp only at answer advances
            split at advances
            · next contained =>
                cases advances
                rw [Option.any_some, if_pos contained] at answer
                exact ⟨rfl, fuel, answer⟩
            · cases advances
        | check | mark | fork | accept | never => cases advances

/-- A way that waits and from which a search succeeds accepts here, or reads the character here. -/
theorem Way.Catches.accepts_or_advances {finish : Finish} (catches : way.Catches program text position finish) :
    accepts program way = true ∧ finish = ⟨position, way.marks⟩ ∨
      accepts program way = false ∧ ∃ character next, text[position]? = some character ∧
        advance? program character way = some next := by
  obtain ⟨waits, added, ⟨fuel, answer⟩, rfl⟩ := catches
  cases fuel with
  | zero => cases answer
  | succ fuel =>
      rw [Program.search?] at answer
      rw [Way.waits] at waits
      rw [accepts]
      simp only [advance?]
      generalize program.steps[way.address]? = step? at answer waits ⊢
      rcases step? with _ | step
      · cases waits
      · cases step with
        | accept =>
            cases answer
            exact .inl ⟨rfl, rfl⟩
        | read charset next =>
            dsimp only at answer ⊢
            refine .inr ⟨rfl, ?_⟩
            split at answer
            · next contained =>
                obtain ⟨character, here, contains⟩ := (Option.any_eq_true _ _).1 contained
                exact ⟨character, _, here, if_pos contains⟩
            · cases answer
        | check | mark | fork | never => cases waits

/-- Ways that fail at a position advance to ways that fail behind it. -/
theorem advance_failing {ways : List Way} (fails : ∀ way ∈ ways, program.Results text way.address position none)
    (inside : position < text.size) :
    ∀ way ∈ ways.filterMap (advance? program text[position]), program.Results text way.address (position + 1) none := by
  intro next member
  obtain ⟨way, among, advances⟩ := List.mem_filterMap.1 member
  exact (advance?_results (Array.getElem?_eq_getElem inside) advances (fails way among)).2

/-- Ways that fail do not accept. -/
theorem find?_failing {ways : List Way} (fails : ∀ way ∈ ways, program.Results text way.address position none) :
    ways.find? (accepts program) = none :=
  List.find?_eq_none.2 fun way member => by
    rw [accepts_failing (fails way member)]
    exact Bool.false_ne_true

/-- Ways that fail find nothing. -/
theorem run_failing {position : Nat} {ways : List Way}
    (fails : ∀ way ∈ ways, program.Results text way.address position none)
    (best? : Option Finish) : run program text position ways best? = best? := by
  have settled := settle_failing fails
  have fewer : ∀ way ∈ (settle program text position ways).takeWhile fun way => !accepts program way,
      program.Results text way.address position none := fun way member =>
    settled way ((List.takeWhile_prefix _).subset member)
  rw [run, find?_failing settled]
  dsimp only
  split
  · rfl
  · split
    · next inside => exact run_failing (advance_failing fewer inside) best?
    · rfl
termination_by text.size - position

/-- Behind ways that fail, a way that succeeds finds what the search from it does. -/
theorem run_finding {position : Nat} {way : Way} {failing rest : List Way} {finish : Finish}
    (fails : ∀ way ∈ failing, program.Results text way.address position none)
    (finds : program.Results text way.address position (some finish)) (best? : Option Finish) :
    run program text position (failing ++ way :: rest) best? = some (finish.after way.marks) := by
  obtain ⟨leaves, last, more, settled, catches, failsLeaves⟩ := settle_finding fails finds rest
  have going : ∀ leaf ∈ leaves, (!accepts program leaf) = true := fun leaf member => by
    rw [accepts_failing (failsLeaves leaf member)]
    rfl
  rw [run, settled, List.takeWhile_append_of_pos going, List.find?_append, find?_failing failsLeaves, Option.none_or]
  rcases catches.accepts_or_advances with ⟨accepting, same⟩ | ⟨goesOn, character, next, here, advances⟩
  · rw [List.takeWhile_cons_of_neg (by simp [accepting]), List.append_nil, List.find?_cons_of_pos accepting, same]
    dsimp only
    split
    · rfl
    · split
      · next inside => exact run_failing (advance_failing failsLeaves inside) _
      · rfl
  · obtain ⟨inside, rfl⟩ := Array.getElem?_eq_some_iff.1 here
    obtain ⟨added, results, same⟩ := catches.finds
    obtain ⟨marks, later⟩ := advance?_results here advances results
    rw [List.takeWhile_cons_of_pos (by simp [goesOn])]
    split
    · next none => simp at none
    · rw [dif_pos inside, List.filterMap_append, List.filterMap_cons_some advances,
        run_finding (advance_failing failsLeaves inside) later, marks, same]
termination_by text.size - position

end

/-- A pattern matches at a position as the search from its entry does. -/
theorem matchAt?_eq {pattern : Pattern} {text : Array Char} {start : Nat} {found? : Option Finish}
    (results : pattern.program.Results text pattern.program.entry start found?) :
    pattern.matchAt? text start = found?.map fun finish => ⟨start, finish.stop,
      (List.range pattern.groups).map fun index => groupSpan? finish.marks (index + 1)⟩ := by
  cases found? with
  | none =>
      rw [matchAt?, run_failing (List.forall_mem_singleton.2 results), Option.map_none]
  | some finish =>
      have found := @run_finding pattern.program text start ⟨pattern.program.entry, []⟩ [] [] finish nofun results none
      rw [matchAt?, ← List.nil_append [_], found, Finish.after_nil, Option.map_some]

end Stencil.Pattern
