/-
This file shows that the directives of relocated tokens are the relocated directives.
-/
import Stencil.Proofs.Directive.Parse
import Stencil.Proofs.Outcome

namespace Stencil.Directive

/-- A relocation gives tokens other places. The refusals of a reader follow the tokens. -/
structure Relocation where
  token : Token → Token
  stop : Stop → Stop
  kind (given : Token) : (token given).kind = given.kind
  text (given : Token) : (token given).text = given.text
  refused (given : Token) (fault : GrammarFault) :
    stop (.refused (.grammar ⟨given.line, given.column⟩ fault)) =
      .refused (.grammar ⟨(token given).line, (token given).column⟩ fault)
  broken (breach : Breach) : stop (.broken breach) = .broken breach

namespace Relocation

variable (relocation : Relocation)

/-- What a reader gives and the tokens that it leaves are relocated. -/
def read {First Second : Type} (change : First → Second) (outcome : First × List Token) :
    Second × List Token :=
  (change outcome.1, outcome.2.map relocation.token)

/-- Behind a relocated reader the next one is relocated too. -/
theorem read_bind {First Second Third Fourth : Type} {change : First → Second} {second : Third → Fourth}
    {step : Except Stop (First × List Token)} {other : Except Stop (Second × List Token)}
    {next : First × List Token → Except Stop (Third × List Token)}
    {following : Second × List Token → Except Stop (Fourth × List Token)}
    (same : other = bimap relocation.stop (relocation.read change) step)
    (later : ∀ value left,
      following (change value, left.map relocation.token) =
        bimap relocation.stop (relocation.read second) (next (value, left))) :
    other >>= following = bimap relocation.stop (relocation.read second) (step >>= next) :=
  bimap_bind same fun outcome _ => later outcome.1 outcome.2

/-- A reader that is refused at a token is refused where the token is relocated. -/
theorem error_refused {Result Other : Type} (change : Result → Other) (token : Token)
    (fault : GrammarFault) :
    (.error (.refused (.grammar ⟨(relocation.token token).line, (relocation.token token).column⟩ fault)) :
      Except Stop Other) =
      bimap relocation.stop change (.error (.refused (.grammar ⟨token.line, token.column⟩ fault))) :=
  congrArg Except.error (relocation.refused token fault).symm

theorem error_broken {Result Other : Type} (change : Result → Other) (breach : Breach) :
    (.error (.broken breach) : Except Stop Other) =
      bimap relocation.stop change (.error (.broken breach)) :=
  congrArg Except.error (relocation.broken breach).symm

theorem expect_relocated (wanted : Token.Kind) (tokens : List Token) :
    expect wanted (tokens.map relocation.token) =
      bimap relocation.stop (relocation.read relocation.token) (expect wanted tokens) := by
  cases tokens with
  | nil => exact relocation.error_broken _ _
  | cons token rest =>
      rw [List.map_cons, expect, expect, relocation.kind]
      split
      · rfl
      · exact relocation.error_refused _ token _

theorem name_relocated (token : Token) :
    name (relocation.token token) = bimap relocation.stop id (name token) := by
  have inner : (relocation.token token).inner = token.inner := by
    rw [Token.inner, Token.inner, relocation.text]
  rw [name, name, inner, relocation.text]
  split
  · cases Text.Quoted.decode token.text with
    | error fault => exact relocation.error_refused id token _
    | ok text => rfl
  · rfl

theorem flags_relocated (known : Flags) (tokens : List Token) :
    flags known (tokens.map relocation.token) =
      bimap relocation.stop (relocation.read id) (flags known tokens) := by
  fun_induction flags known tokens with
  | case1 known comma word rest isComma isWord flag found ih =>
      rw [List.map_cons, List.map_cons, flags, relocation.kind, if_pos isComma, relocation.kind,
        if_pos isWord, relocation.text, found]
      exact ih
  | case2 known comma word rest isComma isWord absent =>
      rw [List.map_cons, List.map_cons, flags, relocation.kind, if_pos isComma, relocation.kind,
        if_pos isWord, relocation.text, absent]
      exact relocation.error_refused _ word _
  | case3 known comma word rest isComma notWord =>
      rw [List.map_cons, List.map_cons, flags, relocation.kind, if_pos isComma, relocation.kind,
        if_neg notWord]
      exact relocation.error_refused _ word _
  | case4 known comma word rest notComma =>
      rw [List.map_cons, List.map_cons, flags, relocation.kind, if_neg notComma]
      rfl
  | case5 known token isComma =>
      rw [List.map_cons, List.map_nil, flags, relocation.kind, if_pos isComma]
      exact relocation.error_broken _ _
  | case6 known token notComma =>
      rw [List.map_cons, List.map_nil, flags, relocation.kind, if_neg notComma]
      rfl
  | case7 => exact relocation.error_broken _ _

theorem path_relocated (token : Token) : (relocation.token token).path = token.path := by
  rw [Token.path, Token.path, relocation.text]

theorem inner_relocated (token : Token) : (relocation.token token).inner = token.inner := by
  rw [Token.inner, Token.inner, relocation.text]

/-- Each phrase reads the same from relocated tokens. -/
theorem phrase_relocated (keyword : Keyword) (tokens : List Token) :
    phrase keyword (tokens.map relocation.token) =
      bimap relocation.stop (relocation.read id) (phrase keyword tokens) := by
  cases keyword with
  | define =>
      refine relocation.read_bind (relocation.expect_relocated _ _) fun _ _ => ?_
      refine relocation.read_bind (relocation.expect_relocated _ _) fun quoted _ => ?_
      refine relocation.read_bind (relocation.expect_relocated _ _) fun _ _ => ?_
      exact bimap_bind (relocation.name_relocated quoted) fun _ _ => rfl
  | replace =>
      refine relocation.read_bind (relocation.expect_relocated _ _) fun _ _ => ?_
      refine relocation.read_bind (relocation.expect_relocated _ _) fun pattern _ => ?_
      refine relocation.read_bind (relocation.expect_relocated _ _) fun _ _ => ?_
      refine relocation.read_bind (relocation.expect_relocated _ _) fun field _ => ?_
      refine relocation.read_bind (relocation.flags_relocated _ _) fun _ _ => ?_
      refine relocation.read_bind (relocation.expect_relocated _ _) fun _ _ => ?_
      rw [inner_relocated, path_relocated]
      rfl
  | foreach =>
      refine relocation.read_bind (relocation.expect_relocated _ _) fun _ _ => ?_
      refine relocation.read_bind (relocation.expect_relocated _ _) fun item _ => ?_
      refine relocation.read_bind (relocation.expect_relocated _ _) fun _ _ => ?_
      refine relocation.read_bind (relocation.expect_relocated _ _) fun collection _ => ?_
      refine relocation.read_bind (relocation.expect_relocated _ _) fun _ _ => ?_
      rw [path_relocated, path_relocated]
      rfl
  | insert =>
      refine relocation.read_bind (relocation.expect_relocated _ _) fun _ _ => ?_
      refine relocation.read_bind (relocation.expect_relocated _ _) fun field _ => ?_
      refine relocation.read_bind (relocation.expect_relocated _ _) fun _ _ => ?_
      rw [path_relocated]
      rfl

/-- A relocation takes a line with its tokens to another line. A token before the start of its line stays
before it, and the directive of a keyword follows the keyword. -/
structure Keeps (line lineStart newLine newStart : Nat) (directive : Directive → Directive)
    (token : Token) : Prop where
  early : (relocation.token token).start < newStart ↔ token.start < lineStart
  placed (instruction : Instruction) : lineStart ≤ token.start →
    directive ⟨instruction, line, token.start - lineStart⟩ =
      ⟨instruction, newLine, (relocation.token token).start - newStart⟩

variable {line lineStart newLine newStart : Nat} {directive : Directive → Directive}

theorem parseTerminated_relocated {tokens : List Token}
    (keeps : ∀ token ∈ tokens, relocation.Keeps line lineStart newLine newStart directive token) :
    parseTerminated newLine newStart (tokens.map relocation.token) =
      bimap relocation.stop (List.map directive) (parseTerminated line lineStart tokens) := by
  have parse_keyword {token : Token} {keyword : Keyword} (isWord : token.kind = .identifier)
      (found : Keyword.ofWord? token.text = some keyword) (rest : List Token) :=
    parseTerminated_cons_keyword newLine newStart rest ((relocation.kind token).trans isWord)
      ((congrArg Keyword.ofWord? (relocation.text token)).trans found)
  fun_induction parseTerminated line lineStart tokens with
  | case1 =>
      rw [List.map_nil, parseTerminated]
      exact relocation.error_broken _ _
  | case2 token rest ends =>
      rw [List.map_cons, parseTerminated, relocation.kind, if_pos ends]
      rfl
  | case3 token rest goesOn isWord absent ih =>
      rw [List.map_cons, parseTerminated, relocation.kind, if_neg goesOn, if_pos isWord, relocation.text,
        absent]
      exact ih (List.forall_mem_cons.1 keeps).2
  | case4 token rest _ isWord keyword found stop failure =>
      rw [List.map_cons, parse_keyword isWord found, phrase_relocated, failure]
      rfl
  | case5 token rest _ isWord keyword found instruction left success before =>
      rw [List.map_cons, parse_keyword isWord found, phrase_relocated, success]
      refine (if_pos ((List.forall_mem_cons.1 keeps).1.early.2 before)).trans ?_
      exact relocation.error_broken _ _
  | case6 token rest _ isWord keyword found instruction left success behind ih =>
      obtain ⟨here, later⟩ := List.forall_mem_cons.1 keeps
      rw [List.map_cons, parse_keyword isWord found, phrase_relocated, success]
      refine (if_neg (mt here.early.1 behind)).trans ?_
      dsimp only [read, id]
      rw [ih fun other member => later other ((phrase_suffix success).mem member), map_bimap, bimap_map,
        ← here.placed _ (Nat.not_lt.1 behind)]
      rfl
  | case7 token rest goesOn notWord ih =>
      rw [List.map_cons, parseTerminated, relocation.kind, if_neg goesOn, if_neg notWord]
      exact ih (List.forall_mem_cons.1 keeps).2

/-- The directives of a relocated token line are the relocated directives. -/
theorem parse_relocated {tokens : List Token}
    (keeps : ∀ token ∈ tokens, relocation.Keeps line lineStart newLine newStart directive token) :
    parse newLine newStart (tokens.map relocation.token) =
      bimap relocation.stop (List.map directive) (parse line lineStart tokens) := by
  cases tokens with
  | nil => rfl
  | cons token rest =>
      rw [parse, parse, if_neg (List.cons_ne_nil _ _), List.map_cons, if_neg (List.cons_ne_nil _ _)]
      exact relocation.parseTerminated_relocated keeps

end Relocation

end Stencil.Directive
