/-
This file says what the searches through written steps find, one kind of expression at a time.
-/
import Stencil.Proofs.Pattern.Lockstep

namespace Stencil.Pattern

/-- The outcomes of an expression at a position are where it stops, with the marks made on the way, in the order of
their preference. -/
abbrev Outcomes := Array Char → Nat → List Finish

namespace Outcomes

/-- Nothing is read. -/
def nothing : Outcomes := fun _ position => [⟨position, []⟩]

/-- One character of a set is read. -/
def set (charset : Charset) : Outcomes := fun text position =>
  if text[position]?.any charset.contains then [⟨position + 1, []⟩] else []

/-- The position has the look. -/
def look (look : Look) : Outcomes := fun text position =>
  if look.holds text position then [⟨position, []⟩] else []

/-- The second part is read behind the first. -/
def andThen (first second : Outcomes) : Outcomes := fun text position =>
  (first text position).flatMap fun outcome =>
    (second text outcome.stop).map fun later => later.after outcome.marks

/-- The characters of a text are read. -/
def text : Text → Outcomes
  | [] => nothing
  | character :: rest => andThen (set (.single character)) (text rest)

/-- The body is preferred to nothing. -/
def optional (body : Outcomes) : Outcomes := fun text position => body text position ++ nothing text position

/-- The first branch is preferred to the second. -/
def either (first second : Outcomes) : Outcomes := fun text position => first text position ++ second text position

/-- The most characters of a set are preferred. -/
def star (charset : Charset) (characters : Array Char) (position : Nat) : List Finish :=
  if inside : position < characters.size then
    if charset.contains characters[position] then
      star charset characters (position + 1) ++ nothing characters position
    else nothing characters position
  else nothing characters position
termination_by characters.size - position

/-- The most characters of a set are preferred, but one at least. -/
def plus (charset : Charset) : Outcomes := andThen (set charset) (star charset)

/-- The start and the end of a group are marked. -/
def capture (index : Nat) (body : Outcomes) : Outcomes := fun text position =>
  (body text position).map fun outcome =>
    ⟨outcome.stop, ⟨2 * index + 1, outcome.stop⟩ :: (outcome.marks ++ [⟨2 * index, position⟩])⟩

theorem andThen_nothing (outcomes : Outcomes) : andThen outcomes nothing = outcomes := by
  funext text position
  simp [andThen, nothing, Finish.after]

end Outcomes

namespace Program

variable {program : Program} {text : Array Char} {address next position : Nat} {found? : Option Finish}

theorem Results.read {charset : Charset} (step : program.steps[address]? = some (.read charset next))
    (reads : text[position]?.any charset.contains = true) (later : program.Results text next (position + 1) found?) :
    program.Results text address position found? := by
  obtain ⟨fuel, later⟩ := later
  exact ⟨fuel + 1, by rw [search?, step]; exact (if_pos reads).trans later⟩

theorem Results.refuse {charset : Charset} (step : program.steps[address]? = some (.read charset next))
    (refuses : ¬text[position]?.any charset.contains = true) : program.Results text address position none :=
  ⟨1, by rw [search?, step]; exact if_neg refuses⟩

theorem Results.check {look : Look} (step : program.steps[address]? = some (.check look next))
    (holds : look.holds text position = true) (later : program.Results text next position found?) :
    program.Results text address position found? := by
  obtain ⟨fuel, later⟩ := later
  exact ⟨fuel + 1, by rw [search?, step]; exact (if_pos holds).trans later⟩

theorem Results.uncheck {look : Look} (step : program.steps[address]? = some (.check look next))
    (fails : ¬look.holds text position = true) : program.Results text address position none :=
  ⟨1, by rw [search?, step]; exact if_neg fails⟩

theorem Results.mark {slot : Nat} (step : program.steps[address]? = some (.mark slot next))
    (later : program.Results text next position found?) :
    program.Results text address position (found?.map fun finish => finish.after [⟨slot, position⟩]) := by
  obtain ⟨fuel, later⟩ := later
  exact ⟨fuel + 1, by rw [search?, step]; dsimp only; rw [later]; rfl⟩

theorem Results.first {first second : Nat} {finish : Finish}
    (step : program.steps[address]? = some (.fork first second))
    (finds : program.Results text first position (some finish)) :
    program.Results text address position (some finish) := by
  obtain ⟨fuel, finds⟩ := finds
  exact ⟨fuel + 1, by rw [search?, step]; dsimp only; rw [finds]; rfl⟩

theorem Results.second {first second : Nat} (step : program.steps[address]? = some (.fork first second))
    (fails : program.Results text first position none) (later : program.Results text second position found?) :
    program.Results text address position found? := by
  obtain ⟨fuel, fails⟩ := fails
  obtain ⟨more, later⟩ := later
  refine ⟨max fuel more + 1, ?_⟩
  rw [search?, step]
  dsimp only
  rw [search?_mono fails (Nat.le_max_left _ _), Option.bind_some]
  exact search?_mono later (Nat.le_max_right _ _)

theorem Results.accept (step : program.steps[address]? = some .accept) :
    program.Results text address position (some ⟨position, []⟩) :=
  ⟨1, by rw [search?, step]⟩

/-- The first of some outcomes from which a search goes on to a success at an address. -/
inductive FirstOf (program : Program) (text : Array Char) (next : Nat) : List Finish → Option Finish → Prop where
  | nothing : FirstOf program text next [] none
  | found {outcome finish : Finish} {rest : List Finish}
      (finds : program.Results text next outcome.stop (some finish)) :
      FirstOf program text next (outcome :: rest) (some (finish.after outcome.marks))
  | failed {outcome : Finish} {rest : List Finish} {found? : Option Finish}
      (fails : program.Results text next outcome.stop none) (others : FirstOf program text next rest found?) :
      FirstOf program text next (outcome :: rest) found?

/-- The first of two lists of outcomes is in the first list, or in the second if there is none in the first. -/
theorem FirstOf.of_append {first second : List Finish} (firstOf : program.FirstOf text next (first ++ second) found?) :
    (∃ finish, found? = some finish ∧ program.FirstOf text next first (some finish)) ∨
      program.FirstOf text next first none ∧ program.FirstOf text next second found? := by
  induction first with
  | nil => exact .inr ⟨.nothing, firstOf⟩
  | cons outcome rest ih =>
      cases firstOf with
      | found finds => exact .inl ⟨_, rfl, .found finds⟩
      | failed fails others =>
          rcases ih others with ⟨finish, same, first⟩ | ⟨none, second⟩
          · exact .inl ⟨finish, same, .failed fails first⟩
          · exact .inr ⟨.failed fails none, second⟩

/-- Marks made before the outcomes are behind theirs. -/
theorem FirstOf.of_after {outcomes : List Finish} {marks : List Mark}
    (firstOf : program.FirstOf text next (outcomes.map fun outcome => outcome.after marks) found?) :
    ∃ other?, program.FirstOf text next outcomes other? ∧ found? = other?.map fun finish => finish.after marks := by
  induction outcomes with
  | nil =>
      cases firstOf
      exact ⟨none, .nothing, rfl⟩
  | cons outcome rest ih =>
      cases firstOf with
      | @found _ finish _ finds =>
          refine ⟨_, .found finds, ?_⟩
          rw [Option.map_some, Finish.after_after]
          rfl
      | failed fails others =>
          obtain ⟨other?, first, same⟩ := ih others
          exact ⟨other?, .failed fails first, same⟩

/-- A search from an address that goes on as it does from the only outcome. -/
theorem FirstOf.of_singleton {outcome : Finish} (firstOf : program.FirstOf text next [outcome] found?) :
    ∃ other?, program.Results text next outcome.stop other? ∧
      found? = other?.map fun finish => finish.after outcome.marks := by
  cases firstOf with
  | found finds => exact ⟨_, finds, rfl⟩
  | failed fails others =>
      cases others
      exact ⟨none, fails, rfl⟩

/-- Where nothing is read the search goes on from the same position. -/
theorem FirstOf.of_nothing (firstOf : program.FirstOf text next (Outcomes.nothing text position) found?) :
    program.Results text next position found? := by
  obtain ⟨other?, results, rfl⟩ := firstOf.of_singleton
  simpa using results

/-- The steps of some code from an address on stand in a program. -/
def Holds (program : Program) (start : Nat) (code : Array Step) : Prop :=
  ∀ address, start ≤ address → address < code.size → program.steps[address]? = code[address]?

end Program

/-- Some code goes on as later code. -/
structure Leads (code later : Array Step) : Prop where
  size : code.size ≤ later.size
  same : ∀ address, address < code.size → later[address]? = code[address]?

namespace Leads

variable {code later last : Array Step}

theorem refl (code : Array Step) : Leads code code where
  size := Nat.le_refl _
  same _ _ := rfl

theorem trans (first : Leads code later) (second : Leads later last) : Leads code last where
  size := Nat.le_trans first.size second.size
  same address inside := by
    rw [second.same address (Nat.lt_of_lt_of_le inside first.size), first.same address inside]

theorem push (code : Array Step) (step : Step) : Leads code (code.push step) where
  size := by
    rw [Array.size_push]
    exact Nat.le_succ _
  same address inside := Array.getElem?_push_lt inside |>.trans (Array.getElem?_eq_getElem inside).symm

end Leads

namespace Program.Holds

variable {program : Program} {code later : Array Step} {start : Nat}

theorem narrow (holds : program.Holds start later) (leads : Leads code later) : program.Holds start code :=
  fun address behind inside => by
    rw [holds address behind (Nat.lt_of_lt_of_le inside leads.size), leads.same address inside]

theorem widen (holds : program.Holds start code) {more : Nat} (behind : start ≤ more) : program.Holds more code :=
  fun address after => holds address (Nat.le_trans behind after)

/-- The last step stands in the program. -/
theorem last {step : Step} (holds : program.Holds start (code.push step)) (behind : start ≤ code.size) :
    program.steps[code.size]? = some step := by
  rw [holds code.size behind (by rw [Array.size_push]; exact Nat.lt_succ_self _), Array.getElem?_push_size]

end Program.Holds

namespace Writer

/-- The written code goes on to what stands at the next address from each outcome, up to the first from which
that succeeds. -/
structure Writes (writer : Writer) (outcomes : Outcomes) : Prop where
  leads : ∀ next code, Leads code (writer next code).2
  finds : ∀ (program : Program) (text : Array Char) (next : Nat) (code : Array Step) (position : Nat)
    (found? : Option Finish), program.Holds code.size (writer next code).2 →
    program.FirstOf text next (outcomes text position) found? →
    program.Results text (writer next code).1 position found?

theorem nothing_writes : Writes nothing Outcomes.nothing where
  leads _ code := .refl code
  finds _ _ _ _ _ _ _ firstOf := firstOf.of_nothing

/-- A step that has one outcome or none. -/
theorem append_writes {step : Nat → Step} {outcomes : Outcomes}
    (finds : ∀ (program : Program) (text : Array Char) (next address position : Nat) (found? : Option Finish),
      program.steps[address]? = some (step next) → program.FirstOf text next (outcomes text position) found? →
      program.Results text address position found?) :
    Writes (fun next code => append (step next) code) outcomes where
  leads next code := .push code (step next)
  finds program text next code position found? holds firstOf :=
    finds program text next code.size position found? (holds.last (Nat.le_refl _)) firstOf

theorem read_writes (charset : Charset) :
    Writes (fun next code => append (.read charset next) code) (Outcomes.set charset) := by
  refine append_writes fun program text next address position found? step firstOf => ?_
  rw [Outcomes.set] at firstOf
  split at firstOf
  · next reads =>
      obtain ⟨other?, results, rfl⟩ := firstOf.of_singleton
      simpa using results.read step reads
  · next refuses =>
      cases firstOf
      exact .refuse step refuses

theorem check_writes (look : Look) :
    Writes (fun next code => append (.check look next) code) (Outcomes.look look) := by
  refine append_writes fun program text next address position found? step firstOf => ?_
  rw [Outcomes.look] at firstOf
  split at firstOf
  · next holds =>
      obtain ⟨other?, results, rfl⟩ := firstOf.of_singleton
      simpa using results.check step holds
  · next fails =>
      cases firstOf
      exact .uncheck step fails

end Writer

namespace Program

variable {program : Program} {text : Array Char} {next : Nat} {found? : Option Finish}

/-- Where each outcome goes on with outcomes of its own, the first of all of them is the first that is reached from
an address from which those are found. -/
theorem FirstOf.of_flatMap {address : Nat} {second : Nat → List Finish} {outcomes : List Finish}
    (goesOn : ∀ (position : Nat) (other? : Option Finish), program.FirstOf text next (second position) other? →
      program.Results text address position other?)
    (firstOf : program.FirstOf text next
      (outcomes.flatMap fun outcome => (second outcome.stop).map fun later => later.after outcome.marks) found?) :
    program.FirstOf text address outcomes found? := by
  induction outcomes generalizing found? with
  | nil =>
      cases firstOf
      exact .nothing
  | cons outcome rest ih =>
      rw [List.flatMap_cons] at firstOf
      rcases firstOf.of_append with ⟨finish, rfl, first⟩ | ⟨none, others⟩
      · obtain ⟨other?, there, same⟩ := first.of_after
        obtain ⟨found, rfl, rfl⟩ := Option.map_eq_some_iff.1 same.symm
        exact .found (goesOn _ _ there)
      · obtain ⟨other?, there, same⟩ := none.of_after
        obtain rfl := Option.map_eq_none_iff.1 same.symm
        exact .failed (goesOn _ _ there) (ih others)

/-- Marks at the stops of outcomes are made by a step behind them. -/
theorem FirstOf.of_marked {slot address : Nat} {marks : List Mark} {outcomes : List Finish}
    (step : program.steps[address]? = some (.mark slot next))
    (firstOf : program.FirstOf text next
      (outcomes.map fun outcome => ⟨outcome.stop, ⟨slot, outcome.stop⟩ :: (outcome.marks ++ marks)⟩) found?) :
    ∃ other?, program.FirstOf text address outcomes other? ∧ found? = other?.map fun finish => finish.after marks := by
  induction outcomes generalizing found? with
  | nil =>
      cases firstOf
      exact ⟨none, .nothing, rfl⟩
  | cons outcome rest ih =>
      cases firstOf with
      | @found _ finish _ finds =>
          refine ⟨_, .found (finds.mark step), ?_⟩
          simp only [Option.map_some, Finish.after_after, List.nil_append, List.cons_append]
      | failed fails others =>
          obtain ⟨other?, first, same⟩ := ih others
          exact ⟨other?, .failed (fails.mark step) first, same⟩

end Program

namespace Writer

variable {writer first second body : Writer} {outcomes firsts seconds : Outcomes}

theorem Writes.andThen (writes : Writes first firsts) (writesToo : Writes second seconds) :
    Writes (Writer.andThen first second) (Outcomes.andThen firsts seconds) where
  leads next code := (writesToo.leads next code).trans (writes.leads _ _)
  finds program text next code position found? holds firstOf := by
    have later := holds.narrow (writes.leads (second next code).1 (second next code).2)
    refine writes.finds program text _ _ position found? (holds.widen (writesToo.leads next code).size) ?_
    exact firstOf.of_flatMap fun position other? there =>
      writesToo.finds program text next code position other? later there

theorem text_writes (word : Text) : Writes (text word) (Outcomes.text word) := by
  induction word with
  | nil => exact nothing_writes
  | cons character rest ih => exact (read_writes _).andThen ih

theorem Writes.optional (writes : Writes body outcomes) :
    Writes (optionalRounds true body 1) (Outcomes.optional outcomes) where
  leads next code := (writes.leads next code).trans (.push _ _)
  finds program text next code position found? holds firstOf := by
    have step := holds.last (writes.leads next code).size
    have inside := holds.narrow (.push _ _)
    rcases firstOf.of_append with ⟨finish, rfl, first⟩ | ⟨none, others⟩
    · exact (writes.finds program text next code position _ inside first).first step
    · exact (writes.finds program text next code position _ inside none).second step
        others.of_nothing

theorem Writes.capture {index : Nat} (writes : Writes body outcomes) :
    Writes (fun next code =>
      let (stop, code) := append (.mark (2 * index + 1) next) code
      let (start, code) := body stop code
      append (.mark (2 * index) start) code) (Outcomes.capture index outcomes) where
  leads next code := ((Leads.push _ _).trans (writes.leads _ _)).trans (.push _ _)
  finds program text next code position found? holds firstOf := by
    have leads := (Leads.push code (.mark (2 * index + 1) next)).trans (writes.leads code.size _)
    have start := holds.last leads.size
    have inside := holds.narrow (.push _ _)
    have stop := (inside.narrow (writes.leads code.size _)).last (Nat.le_refl _)
    obtain ⟨other?, there, rfl⟩ := firstOf.of_marked stop
    refine Program.Results.mark start (writes.finds program text _ _ position other? (inside.widen ?_) there)
    exact (Leads.push _ _).size

theorem Writes.either (writes : Writes first firsts) (writesToo : Writes second seconds) :
    Writes (fun next code =>
      let (start, code) := first next code
      let (other, code) := second next code
      append (.fork start other) code) (Outcomes.either firsts seconds) where
  leads next code := ((writes.leads _ _).trans (writesToo.leads _ _)).trans (.push _ _)
  finds program text next code position found? holds firstOf := by
    have leads := writes.leads next code
    have leadsToo := writesToo.leads next (first next code).2
    have step := holds.last (leads.trans leadsToo).size
    have inside := holds.narrow (.push _ _)
    have there := inside.narrow leadsToo
    have thereToo := inside.widen leads.size
    rcases firstOf.of_append with ⟨finish, rfl, found⟩ | ⟨none, others⟩
    · exact (writes.finds program text _ _ position _ there found).first step
    · exact (writes.finds program text _ _ position _ there none).second step
        (writesToo.finds program text _ _ position _ thereToo others)

/-- Any number of rounds that read one character are a fork and the step that reads, which leads back. -/
theorem zeroOrMore_read (charset : Charset) (next : Nat) (code : Array Step) :
    zeroOrMore true false (fun next code => append (.read charset next) code) next code =
      (code.size, (code.push (.fork (code.size + 1) next)).push (.read charset code.size)) := by
  have replaced : ((code.push .never).push (.read charset code.size)).setIfInBounds code.size
      (.fork (code.size + 1) next) = (code.push (.fork (code.size + 1) next)).push (.read charset code.size) := by
    refine Array.ext_getElem? fun address => ?_
    simp only [Array.getElem?_setIfInBounds, Array.getElem?_push, Array.size_push]
    grind
  simp only [zeroOrMore, loop, append, choose, if_true, Array.size_push, Bool.false_eq_true, if_false, replaced]

/-- A fork before a step that reads, and that leads back, finds as many characters as it can. -/
theorem star_finds {program : Program} {text : Array Char} {charset : Charset} {fork start next position : Nat}
    {found? : Option Finish}
    (choice : program.steps[fork]? = some (.fork start next)) (read : program.steps[start]? = some (.read charset fork))
    (firstOf : program.FirstOf text next (Outcomes.star charset text position) found?) :
    program.Results text fork position found? := by
  -- One round of the loop is one call: what it reads leaves less of the text.
  rw [Outcomes.star] at firstOf
  split at firstOf
  · next inside =>
      split at firstOf
      · next contained =>
          have reads : text[position]?.any charset.contains = true := by
            rw [Array.getElem?_eq_getElem inside]
            exact contained
          rcases firstOf.of_append with ⟨finish, rfl, first⟩ | ⟨none, others⟩
          · exact ((star_finds choice read first).read read reads).first choice
          · exact ((star_finds choice read none).read read reads).second choice others.of_nothing
      · next refused =>
          refine Program.Results.second choice (.refuse read ?_) firstOf.of_nothing
          rw [Array.getElem?_eq_getElem inside]
          exact refused
  · next outside =>
      refine Program.Results.second choice (.refuse read ?_) firstOf.of_nothing
      rw [Array.getElem?_eq_none (Nat.le_of_not_lt outside)]
      exact Bool.false_ne_true
termination_by text.size - position

theorem star_writes (charset : Charset) :
    Writes (zeroOrMore true false fun next code => append (.read charset next) code) (Outcomes.star charset) where
  leads next code := by
    rw [zeroOrMore_read]
    exact (Leads.push _ _).trans (.push _ _)
  finds program text next code position found? holds firstOf := by
    rw [zeroOrMore_read] at holds ⊢
    have choice := (holds.narrow (.push _ _)).last (Nat.le_refl _)
    have read := holds.last (Leads.push _ _).size
    rw [Array.size_push] at read
    exact star_finds choice read firstOf

/-- One or more rounds that read one character. The first step reads, and the fork is behind it. -/
theorem oneOrMore_read (charset : Charset) (next : Nat) (code : Array Step) :
    oneOrMore true (fun next code => append (.read charset next) code) next code =
      (code.size + 1, (code.push (.fork (code.size + 1) next)).push (.read charset code.size)) := by
  have same := congrArg Prod.snd (zeroOrMore_read charset next code)
  exact Prod.ext (Array.size_push _) same

theorem plus_writes (charset : Charset) :
    Writes (oneOrMore true fun next code => append (.read charset next) code) (Outcomes.plus charset) where
  leads next code := by
    rw [oneOrMore_read]
    exact (Leads.push _ _).trans (.push _ _)
  finds program text next code position found? holds firstOf := by
    rw [oneOrMore_read] at holds ⊢
    have choice := (holds.narrow (.push _ _)).last (Nat.le_refl _)
    have read := holds.last (Leads.push _ _).size
    rw [Array.size_push] at read
    have first := firstOf.of_flatMap fun position other? there => star_finds choice read there
    rw [Outcomes.set] at first
    split at first
    · next reads =>
        obtain ⟨other?, results, rfl⟩ := first.of_singleton
        simpa using results.read read reads
    · next refuses =>
        cases first
        exact .refuse read refuses

end Writer

namespace Expr

open Writer

variable {body part : Expr} {outcomes others : Outcomes} {parts : List Expr}

theorem literal_writes (word : Text) : Writes (write (.literal word)) (Outcomes.text word) := text_writes word

theorem set_writes (charset : Charset) : Writes (write (.set charset)) (Outcomes.set charset) := read_writes charset

theorem look_writes (kind : Look) : Writes (write (.look kind)) (Outcomes.look kind) := check_writes kind

/-- A set with characters matches one of them. -/
theorem any_writes {charset : Charset} (inhabited : charset.isEmpty = false) :
    Writes (write (.repetition 0 none true (.set charset))) (Outcomes.star charset) := by
  have nonempty : (leastLength? (.set charset)).all (· == 0) = false := by
    rw [leastLength?, inhabited]
    rfl
  change Writes (zeroOrMore true ((leastLength? (.set charset)).all (· == 0)) (write (.set charset))) _
  rw [nonempty]
  exact star_writes charset

theorem some_writes (charset : Charset) :
    Writes (write (.repetition 1 none true (.set charset))) (Outcomes.plus charset) := plus_writes charset

theorem optional_writes (writes : Writes (write body) outcomes) :
    Writes (write (.repetition 0 (some 1) true body)) (Outcomes.optional outcomes) := writes.optional

theorem capture_writes {index : Nat} (writes : Writes (write body) outcomes) :
    Writes (write (.capture index body)) (Outcomes.capture index outcomes) := writes.capture

theorem either_writes (writes : Writes (write body) outcomes) (writesToo : Writes (write part) others) :
    Writes (write (.alternation [body, part])) (Outcomes.either outcomes others) := writes.either writesToo

/-- The last part of a sequence. -/
theorem last_writes (writes : Writes (write part) outcomes) : Writes (writeAll [part]) outcomes := by
  have whole := writes.andThen nothing_writes
  rw [Outcomes.andThen_nothing] at whole
  exact whole

theorem cons_writes (writes : Writes (write part) outcomes) (writesToo : Writes (writeAll parts) others) :
    Writes (writeAll (part :: parts)) (Outcomes.andThen outcomes others) := writes.andThen writesToo

theorem concatenation_writes (writes : Writes (writeAll parts) outcomes) :
    Writes (write (.concatenation parts)) outcomes := writes

end Expr

/-- A pattern matches at a position by the preferred outcome of its expression. -/
theorem matchAt?_of_writes {expr : Expr} {outcomes : Outcomes} (writes : Writer.Writes expr.write outcomes)
    (groups : Nat) (text : Array Char) (start : Nat) :
    matchAt? ⟨.ofExpr expr, groups⟩ text start = (outcomes text start).head?.map fun outcome => ⟨start, outcome.stop,
      (List.range groups).map fun index => groupSpan? outcome.marks (index + 1)⟩ := by
  let program := Program.ofExpr expr
  have accepting : program.steps[0]? = some .accept := (writes.leads 0 #[.accept]).same 0 Nat.one_pos
  have first : program.FirstOf text 0 (outcomes text start) (outcomes text start).head? := by
    cases outcomes text start with
    | nil => exact .nothing
    | cons outcome rest => exact .found (.accept accepting)
  exact matchAt?_eq (writes.finds program text 0 #[.accept] start _ (fun _ _ _ => rfl) first)

end Stencil.Pattern
