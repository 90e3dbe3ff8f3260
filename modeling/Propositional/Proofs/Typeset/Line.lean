import Propositional.Folded.Typeset
import Propositional.Proofs.PrefixCode
import Propositional.Text.Uppercase
import Propositional.Token

/-!
# Typeset lines

How a typeset formula can be read.  A line has chains with signs of connectives between them, and a
chain has parts with struck-out arrows between them; a part is a constant, a symbol, a group, which
is a line between parentheses, or a negation of one of these.

The marks that lines are made of are a prefix code (`Mark.prefixCode`), and marks can be read as a
line in one way only, from left to right (`Line.eq_of_append`).  So a text is the text of at most
one line (`Line.eq_of_text`).  That does not yet tell the formula: within a chain it is left open
which arrow is the outermost one.
-/

namespace Propositional

/-- The symbol of a letter. -/
def Letter.symbol (letter : Letter) : String := Text.upperString letter.name

/-- The connective of a junction of two operands. -/
def Junction.connective : Junction → Connective
  | .all => .and
  | .any => .or

/-- The sign of a connective. -/
def Connective.sign : Connective → List Char
  | .and => Folded.junctionSign .all
  | .or => Folded.junctionSign .any
  | .implies => Folded.implicationSign
  | .iff => Folded.equivalenceSign

namespace Typeset

/-! ## Marks -/

/-- The arrows that may be struck out. -/
inductive Arrow where
  | implication
  | equivalence
deriving DecidableEq

/-- The connective that an arrow stands for. -/
def Arrow.connective : Arrow → Connective
  | implication => .implies
  | equivalence => .iff

/-- The marks that a typeset formula is made of. -/
inductive Mark where
  | constant (value : Bool)
  | symbol (letter : Letter)
  | negation
  | opening
  | closing
  | sign (connective : Connective)
  | struck (arrow : Arrow)
deriving DecidableEq

namespace Mark

/-- The characters of a mark. -/
def text : Mark → List Char
  | constant value => Folded.roman (if value then "True" else "False")
  | symbol letter => letter.symbol.toList
  | negation => Folded.control "neg "
  | opening => Folded.control "left("
  | closing => Folded.control "right)"
  | sign connective => ' ' :: connective.sign ++ [' ']
  | struck arrow => ' ' :: Folded.struck arrow.connective.sign ++ [' ']

/-- Every mark. -/
def all : List Mark :=
  [constant true, constant false] ++ Letter.all.map symbol ++
    [negation, opening, closing, sign .and, sign .or, sign .implies, sign .iff,
      struck .implication, struck .equivalence]

theorem mem_all (mark : Mark) : mark ∈ all := by
  cases mark with
  | constant value => cases value <;> decide
  | symbol letter => cases letter <;> decide
  | sign connective => cases connective <;> decide
  | struck arrow => cases arrow <;> decide
  | negation | opening | closing => decide

private theorem all_ne_nil : ∀ mark ∈ all, mark.text ≠ [] := by
  decide +kernel

private theorem all_prefix_free :
    ∀ mark ∈ all, ∀ other ∈ all, mark.text <+: other.text → mark = other := by
  decide +kernel

/-- The texts of the marks are a prefix code. -/
theorem prefixCode : PrefixCode text where
  ne_nil mark := all_ne_nil mark mark.mem_all
  eq_of_startsWith {mark other} h := all_prefix_free mark mark.mem_all other other.mem_all h

end Mark

/-- The text of marks. -/
def spell (marks : List Mark) : List Char := marks.flatMap Mark.text

@[simp] theorem spell_nil : spell [] = [] := rfl

@[simp] theorem spell_cons (mark : Mark) (marks : List Mark) :
    spell (mark :: marks) = mark.text ++ spell marks := rfl

@[simp] theorem spell_append (marks others : List Mark) :
    spell (marks ++ others) = spell marks ++ spell others :=
  List.flatMap_append

/-! ## Lines -/

mutual

/-- What stands between two operators. -/
inductive Part where
  | constant (value : Bool)
  | symbol (letter : Letter)
  | group (content : Line)
  | negated (part : Part)

/-- Parts with struck-out arrows between them. -/
inductive Chain where
  | last (part : Part)
  | more (part : Part) (arrow : Arrow) (rest : Chain)

/-- Chains with signs of connectives between them. -/
inductive Line where
  | last (chain : Chain)
  | more (chain : Chain) (connective : Connective) (rest : Line)

end

mutual

/-- The marks of a part. -/
def Part.marks : Part → List Mark
  | .constant value => [.constant value]
  | .symbol letter => [.symbol letter]
  | .group content => .opening :: content.marks ++ [.closing]
  | .negated part => .negation :: part.marks

/-- The marks of a chain. -/
def Chain.marks : Chain → List Mark
  | .last part => part.marks
  | .more part arrow rest => part.marks ++ .struck arrow :: rest.marks

/-- The marks of a line. -/
def Line.marks : Line → List Mark
  | .last chain => chain.marks
  | .more chain connective rest => chain.marks ++ .sign connective :: rest.marks

end

/-! ## Reading lines -/

/-- A chain may end before these marks. -/
def ChainEnds (marks : List Mark) : Prop := ∀ arrow, marks.head? ≠ some (.struck arrow)

/-- A line may end before these marks. -/
def LineEnds (marks : List Mark) : Prop :=
  ChainEnds marks ∧ ∀ connective, marks.head? ≠ some (.sign connective)

theorem chainEnds_sign (connective : Connective) (marks : List Mark) :
    ChainEnds (.sign connective :: marks) := by
  simp [ChainEnds]

theorem lineEnds_closing (marks : List Mark) : LineEnds (.closing :: marks) := by
  simp [LineEnds, ChainEnds]

theorem not_chainEnds_struck (arrow : Arrow) (marks : List Mark) :
    ¬ ChainEnds (.struck arrow :: marks) :=
  fun h => h arrow rfl

theorem not_lineEnds_sign (connective : Connective) (marks : List Mark) :
    ¬ LineEnds (.sign connective :: marks) :=
  fun h => h.2 connective rfl

mutual

/-- Marks that begin with a part begin with no other one, and the part tells where it ends. -/
theorem Part.eq_of_append : ∀ {part other : Part} {rest rest' : List Mark},
    part.marks ++ rest = other.marks ++ rest' → part = other ∧ rest = rest'
  | .constant _, other, rest, rest', h => by
    cases other <;> simp_all [Part.marks]
  | .symbol _, other, rest, rest', h => by
    cases other <;> simp_all [Part.marks]
  | .group content, other, rest, rest', h => by
    cases other with
    | group content' =>
      simp only [Part.marks, List.cons_append, List.append_assoc, List.nil_append, List.cons.injEq,
        true_and] at h
      obtain ⟨hcontent, hrest⟩ :=
        Line.eq_of_append h (lineEnds_closing rest) (lineEnds_closing rest')
      exact ⟨by rw [hcontent], (List.cons.inj hrest).2⟩
    | constant | symbol | negated => simp [Part.marks] at h
  | .negated part, other, rest, rest', h => by
    cases other with
    | negated part' =>
      simp only [Part.marks, List.cons_append, List.cons.injEq, true_and] at h
      obtain ⟨hpart, hrest⟩ := Part.eq_of_append h
      exact ⟨by rw [hpart], hrest⟩
    | constant | symbol | group => simp [Part.marks] at h

/-- A chain that begins some marks, and that goes on as long as it can, is the only one. -/
theorem Chain.eq_of_append : ∀ {chain other : Chain} {rest rest' : List Mark},
    chain.marks ++ rest = other.marks ++ rest' → ChainEnds rest → ChainEnds rest' →
      chain = other ∧ rest = rest'
  | .last part, .last part', rest, rest', h, _, _ => by
    obtain ⟨hpart, hrest⟩ := Part.eq_of_append h
    exact ⟨by rw [hpart], hrest⟩
  | .last part, .more part' arrow' chain', rest, rest', h, hends, _ => by
    simp only [Chain.marks, List.append_assoc, List.cons_append] at h
    rw [(Part.eq_of_append h).2] at hends
    exact absurd hends (not_chainEnds_struck _ _)
  | .more part arrow chain, .last part', rest, rest', h, _, hends' => by
    simp only [Chain.marks, List.append_assoc, List.cons_append] at h
    rw [← (Part.eq_of_append h).2] at hends'
    exact absurd hends' (not_chainEnds_struck _ _)
  | .more part arrow chain, .more part' arrow' chain', rest, rest', h, hends, hends' => by
    simp only [Chain.marks, List.append_assoc, List.cons_append] at h
    obtain ⟨hpart, htail⟩ := Part.eq_of_append h
    obtain ⟨harrow, hchains⟩ := List.cons.inj htail
    obtain ⟨hchain, hrest⟩ := Chain.eq_of_append hchains hends hends'
    exact ⟨by rw [hpart, Mark.struck.inj harrow, hchain], hrest⟩

/-- A line that begins some marks, and that goes on as long as it can, is the only one. -/
theorem Line.eq_of_append : ∀ {line other : Line} {rest rest' : List Mark},
    line.marks ++ rest = other.marks ++ rest' → LineEnds rest → LineEnds rest' →
      line = other ∧ rest = rest'
  | .last chain, .last chain', rest, rest', h, hends, hends' => by
    obtain ⟨hchain, hrest⟩ := Chain.eq_of_append h hends.1 hends'.1
    exact ⟨by rw [hchain], hrest⟩
  | .last chain, .more chain' connective' line', rest, rest', h, hends, _ => by
    simp only [Line.marks, List.append_assoc, List.cons_append] at h
    rw [(Chain.eq_of_append h hends.1 (chainEnds_sign _ _)).2] at hends
    exact absurd hends (not_lineEnds_sign _ _)
  | .more chain connective line, .last chain', rest, rest', h, _, hends' => by
    simp only [Line.marks, List.append_assoc, List.cons_append] at h
    rw [← (Chain.eq_of_append h (chainEnds_sign _ _) hends'.1).2] at hends'
    exact absurd hends' (not_lineEnds_sign _ _)
  | .more chain connective line, .more chain' connective' line', rest, rest', h, hends, hends' => by
    simp only [Line.marks, List.append_assoc, List.cons_append] at h
    obtain ⟨hchain, htail⟩ :=
      Chain.eq_of_append h (chainEnds_sign _ _) (chainEnds_sign _ _)
    obtain ⟨hsign, hlines⟩ := List.cons.inj htail
    obtain ⟨hline, hrest⟩ := Line.eq_of_append hlines hends hends'
    exact ⟨by rw [hchain, Mark.sign.inj hsign, hline], hrest⟩

end

/-- A text is the text of at most one line. -/
theorem Line.eq_of_text {line other : Line} (h : spell line.marks = spell other.marks) :
    line = other := by
  have hmarks : line.marks ++ [] = other.marks ++ [] := by
    rw [List.append_nil, List.append_nil]
    exact Mark.prefixCode.flatMap_injective h
  have hends : LineEnds [] := by simp [LineEnds, ChainEnds]
  exact (Line.eq_of_append hmarks hends hends).1

end Typeset

end Propositional
