import Stencil.Proofs.Culprit.Blame
import Stencil.Proofs.Culprit.Caret
import Stencil.Proofs.Grammar.Acceptance
import Stencil.Proofs.Source.Table
import Stencil.Proofs.Token.Tiling
import Stencil.Report

/-! Where template errors are found. The places of tokens go into the tree and from there into the
errors, so that every error of a text points to characters that stand there. -/

namespace Stencil

open Grammar

/-- A token whose characters stand at its place. A pipe has always the same. -/
structure Token.IsAnchored (stands : String → Position → Prop) (token : Token) : Prop where
  stands : stands token.lexeme token.position
  mark : token.kind = .pipe → token.lexeme = "|"

theorem Token.IsSpelled.lexeme_of_pipe {token : Token} (spelled : token.IsSpelled)
    (kind : token.kind = .pipe) : token.lexeme = "|" := by
  obtain ⟨mode, following, next, spells⟩ := spelled
  rw [kind] at spells
  apply String.toList_injective
  generalize token.lexeme.toList = letters at spells ⊢
  cases spells with
  | @punctuation c _ mark =>
    rcases Scanner.mark_of_punctuation mark with ⟨-, other⟩ | ⟨-, other⟩ | ⟨-, other⟩ | ⟨rfl, -⟩
    · cases other
    · cases other
    · cases other
    · rfl

namespace Grammar

variable {stands : String → Position → Prop}

mutual

theorem Argument.isAnchored_node : (argument : Argument) →
    (∀ token ∈ argument.tokens, token.IsAnchored stands) → argument.node.IsAnchored stands
  | .number _, _ => trivial
  | .string _, _ => trivial
  | .property name, anchored => (anchored name.token List.mem_cons_self).stands
  | .call name opening inner closing, anchored => by
    refine ⟨(anchored name.token List.mem_cons_self).stands, ?_⟩
    apply inner.areAnchored_nodes
    intro token member
    apply anchored token
    simp [Argument.tokens, member]

theorem Arguments.areAnchored_nodes : (arguments : Arguments) →
    (∀ token ∈ arguments.tokens, token.IsAnchored stands) →
    Node.AreAnchored stands arguments.nodes
  | .none, _ => trivial
  | .some first others, anchored => by
    rw [Arguments.tokens, List.forall_mem_append] at anchored
    exact ⟨first.isAnchored_node anchored.1, others.areAnchored_nodes anchored.2⟩

theorem MoreArguments.areAnchored_nodes : (arguments : MoreArguments) →
    (∀ token ∈ arguments.tokens, token.IsAnchored stands) →
    Node.AreAnchored stands arguments.nodes
  | .nil, _ => trivial
  | .cons comma next others, anchored => by
    rw [MoreArguments.tokens, List.forall_mem_cons, List.forall_mem_append] at anchored
    exact ⟨next.isAnchored_node anchored.2.1, others.areAnchored_nodes anchored.2.2⟩

end

theorem isAnchored_foldl (others : List PipedArgument) {left : Node}
    (first : left.IsAnchored stands)
    (anchored : ∀ token ∈ others.flatMap PipedArgument.tokens, token.IsAnchored stands) :
    (others.foldl PipedArgument.node left).IsAnchored stands := by
  induction others generalizing left with
  | nil => exact first
  | cons piped others ih =>
    rw [List.flatMap_cons, PipedArgument.tokens, List.cons_append, List.forall_mem_cons,
      List.forall_mem_append] at anchored
    obtain ⟨mark, target, later⟩ := anchored
    have pipe := mark.stands
    rw [mark.mark piped.mark.known] at pipe
    exact ih ⟨first, piped.target.isAnchored_node target, pipe⟩ later

theorem Part.isAnchored_node (part : Part)
    (anchored : ∀ token ∈ part.tokens, token.IsAnchored stands) :
    part.node.IsAnchored stands := by
  cases part with
  | text word => trivial
  | hole inner =>
    rw [Part.tokens, Hole.tokens, List.forall_mem_cons, List.forall_mem_append, Chain.tokens,
      List.forall_mem_append] at anchored
    obtain ⟨-, ⟨first, others⟩, -⟩ := anchored
    exact isAnchored_foldl inner.chain.others (inner.chain.first.isAnchored_node first) others

theorem areAnchored_line (parts : List Part) (following : Token)
    (anchored : ∀ token ∈ parts.flatMap Part.tokens, token.IsAnchored stands) :
    Node.AreAnchored stands (line parts following).parts := by
  have nodes : Node.AreAnchored stands (parts.map Part.node) := by
    induction parts with
    | nil => trivial
    | cons part others ih =>
      rw [List.flatMap_cons, List.forall_mem_append] at anchored
      exact ⟨part.isAnchored_node anchored.1, ih anchored.2⟩
  unfold line
  split
  next => exact ⟨trivial, trivial⟩
  next => exact nodes

theorem areAnchored_nextLines (last : Token) (others : List NextLine)
    (anchored : ∀ token ∈ others.flatMap NextLine.tokens, token.IsAnchored stands) :
    ∀ line ∈ nextLines last others, Node.AreAnchored stands line.parts := by
  induction others with
  | nil => simp [nextLines]
  | cons next others ih =>
    rw [List.flatMap_cons, NextLine.tokens, List.cons_append, List.forall_mem_cons,
      List.forall_mem_append] at anchored
    rw [nextLines, List.forall_mem_cons]
    exact ⟨areAnchored_line _ _ anchored.2.1, ih anchored.2.2⟩

theorem Derivation.areAnchored_lines (derivation : Derivation)
    (anchored : ∀ token ∈ derivation.tokens, token.IsAnchored stands) :
    ∀ line ∈ derivation.template.lines, Node.AreAnchored stands line.parts := by
  rw [Derivation.tokens, List.forall_mem_append, List.forall_mem_append] at anchored
  obtain ⟨first, others, -⟩ := anchored
  rw [Derivation.template, List.forall_mem_cons]
  exact ⟨areAnchored_line _ _ first, areAnchored_nextLines _ _ others⟩

end Grammar

/-! ### Texts -/

/-- Letters at a place of a text. -/
def StandsIn (text : String) (letters : String) (position : Position) : Prop :=
  StandsAt text.toList letters.toList position

theorem standsIn_of_scan (text : String) :
    (∀ token ∈ (scan text).tokens, StandsIn text token.lexeme token.position) ∧
    ∀ cause position, (scan text).failure = some (.template (.lexical cause position)) →
      StandsIn text "" position := by
  have place : (Scanner.ofText text.toList).position = .behind [] := Position.start_eq_behind
  have nothingBefore : ¬Fuses [] (Scanner.ofText text.toList).rest := by simp [Fuses]
  exact Scanner.standsAt_of_scan place nothingBefore

theorem isAnchored_of_scan {text : String} {token : Token} (member : token ∈ (scan text).tokens) :
    token.IsAnchored (StandsIn text) :=
  ⟨(standsIn_of_scan text).1 token member, (Scanner.isSpelled_of_mem_scan member).lexeme_of_pipe⟩

theorem blames_parse (text : String) : Blames (StandsIn text) (parse text) := by
  intro error failed
  cases tokenized : tokenize text with
  | error failure =>
    have scanned := failure_of_tokenize tokenized
    rw [Parser.parse_of_failure scanned] at failed
    cases failed
    cases Scanner.isLexical_of_scan scanned with
    | cause cause position => exact (standsIn_of_scan text).2 cause position scanned
  | ok tokens =>
    rw [Parser.parse_of_tokenize tokenized] at failed
    obtain ⟨found, expected, member, same⟩ :=
      Parser.grammar_of_eager (endsInput_of_tokenize tokenized) failed
    cases same
    have scanned := scan_of_tokenize tokenized
    exact (standsIn_of_scan text).1 found (by rwa [scanned])

theorem areAnchored_of_parse {text : String} {template : Template}
    (parsed : parse text = .ok template) :
    ∀ line ∈ template.lines, Node.AreAnchored (StandsIn text) line.parts := by
  obtain ⟨derivation, tokenized, rfl⟩ := Parser.exists_derivation_of_parse parsed
  apply derivation.areAnchored_lines
  intro token member
  apply isAnchored_of_scan
  rwa [scan_of_tokenize tokenized]

theorem ofMapping_ne_template (values : Mapping) (error : TemplateError) :
    Source.ofMapping values ≠ .error (.template error) := by
  intro failed
  rcases Source.ofMapping_outcome values with ⟨-, source, built, -⟩ | ⟨failure, refused, stops⟩
  · rw [failed] at built
    cases built
  · rw [failed] at refused
    cases refused
    cases stops

theorem blames_renderText (self : Evaluator) (text : String) (values : Mapping) :
    Blames (StandsIn text) (renderText self text (.mapping values)) := by
  cases parsed : parse text with
  | error failure =>
    intro error failed
    rw [renderText, parsed] at failed
    cases failed
    exact blames_parse text error parsed
  | ok template =>
    have adapted : Blames (StandsIn text) (Source.ofMapping values) :=
      blames_of_ne_template (ofMapping_ne_template values)
    rw [renderText, parsed]
    apply adapted.bind
    intro source
    exact self.blames_render source template (areAnchored_of_parse parsed)

/-- A template error of a text points to a place in the text where its culprit stands. The caret is
shown below that place in the line of the text that it is in. -/
theorem exists_culprit_of_renderText {self : Evaluator} {text : String} {values : Mapping}
    {error : TemplateError}
    (failed : renderText self text (.mapping values) = .error (.template error)) :
    ∃ before after, text.toList = before ++ after ∧ error.position = .behind before ∧
      error.culprit.toList <+: after ∧
      ∃ shown, caretLine text error.position = some shown ∧
        IsCaretLine text.toList before.length shown := by
  obtain ⟨before, after, cut, place, apart⟩ := blames_renderText self text values error failed
  rw [place]
  exact ⟨before, _, cut, rfl, List.prefix_append _ after, caretLine_behind cut apart⟩

/-- A pipe into an unknown name, behind a line end of two characters and a string over two lines. -/
def pipedAcrossLines : String := "a\r\n\x7b'b\nc' | x | f\x7d"

def unknownTarget : TemplateError := .evaluation (.unknownFunction "x" []) ⟨12, 3, 6⟩

theorem exists_culprit_of_renderText_pipedAcrossLines :
    renderText ⟨.empty, {}⟩ pipedAcrossLines (.mapping []) = .error (.template unknownTarget) ∧
    caretLine pipedAcrossLines unknownTarget.position = some "c' | x | f\x7d\n     ^" ∧
    ∃ before after, pipedAcrossLines.toList = before ++ after ∧
      unknownTarget.position = .behind before ∧ "x".toList <+: after ∧
      ∃ shown, caretLine pipedAcrossLines unknownTarget.position = some shown ∧
        IsCaretLine pipedAcrossLines.toList before.length shown := by
  have failed : renderText ⟨.empty, {}⟩ pipedAcrossLines (.mapping []) =
      .error (.template unknownTarget) := by cbv
  have caret : caretLine pipedAcrossLines unknownTarget.position =
      some "c' | x | f\x7d\n     ^" := by decide +kernel
  exact ⟨failed, caret, exists_culprit_of_renderText failed⟩

end Stencil
