import Propositional.Proofs.Reader.Run
import Propositional.Reader.Grammar
import Propositional.Reader.Whole

/-!
# The reader and the grammar

The reader never goes back, and yet it finds every phrase that the grammar derives.  The reason is
that a level stops only in front of a text that could not have continued the phrase: `Stops` says
that neither the connective of the level nor one of a tighter level comes next.

* `Reads.yields`: what is read is a phrase.  A chain that is half read is described by
  `Aim.Yields`, by what it makes of every beginning.
* `Reads.stops`: where reading ends.
* `Derives.reads`: a phrase is read to its end if reading stops there.  The derivation of a chain
  has its last operand outermost, and the reader has its first operand outermost; `Continues` turns
  the one into the other.
* `reads_ok_iff` puts the three together, and `ofCanonical_eq_ok_iff_derives` does so for whole
  texts.
-/

namespace Propositional

/-! ## Where a level stops -/

/-- The connectives of a level and of the tighter levels. -/
def Production.connectives : Production → List Connective
  | .binary .iff => [.iff, .implies, .or, .and]
  | .binary .implies => [.implies, .or, .and]
  | .binary .or => [.or, .and]
  | .binary .and => [.and]
  | .negation => []
  | .primary => []

theorem Production.connectives_binary (connective : Connective) :
    (Production.binary connective).connectives =
      connective :: connective.operandLevel.connectives := by
  cases connective <;> rfl

/-- A phrase of the level does not go on with the text. -/
def Stops (production : Production) (text : List Char) : Prop :=
  ∀ connective ∈ production.connectives, ¬ connective.spelling <+: text

theorem stops_binary_iff {connective : Connective} {text : List Char} :
    Stops (.binary connective) text ↔
      ¬ connective.spelling <+: text ∧ Stops connective.operandLevel text := by
  unfold Stops
  rw [Production.connectives_binary, List.forall_mem_cons]

theorem stops_nil (production : Production) : Stops production [] := by
  intro connective _ hword
  rw [List.prefix_nil] at hword
  exact connective.spelling_ne_nil hword

/-- A text that begins with a token stops the levels that have no connective with that spelling. -/
theorem stops_token {production : Production} {token : Token}
    (h : ∀ connective ∈ production.connectives, .connective connective ≠ token)
    (rest : List Char) : Stops production (token.spelling ++ rest) :=
  fun connective hmem => Token.not_prefix_of_ne (h connective hmem) rest

/-- The operands of a connective stop in front of it. -/
theorem stops_operandLevel (connective : Connective) (rest : List Char) :
    Stops connective.operandLevel (connective.spelling ++ rest) := by
  have hother : ∀ other ∈ connective.operandLevel.connectives,
      Token.connective other ≠ .connective connective := by
    cases connective <;> decide
  exact stops_token hother rest

/-! ## Room for nesting -/

/-- A phrase that nests so deep may stand where so many constructs are open. -/
def Fits (limit depth nesting : Nat) : Prop := nesting = 0 ∨ depth + nesting ≤ limit

theorem fits_zero (limit depth : Nat) : Fits limit depth 0 := .inl rfl

theorem fits_max_iff {limit depth nesting other : Nat} :
    Fits limit depth (max nesting other) ↔ Fits limit depth nesting ∧ Fits limit depth other := by
  unfold Fits
  omega

theorem fits_succ_iff {limit depth nesting : Nat} :
    Fits limit depth (nesting + 1) ↔ depth < limit ∧ Fits limit (depth + 1) nesting := by
  unfold Fits
  omega

/-- From the beginning of a text on, the limit itself is the bound. -/
theorem fits_start_iff {limit nesting : Nat} : Fits limit 0 nesting ↔ nesting ≤ limit := by
  unfold Fits
  omega

/-! ## What is read is a phrase -/

/-- The text is what the aim asks for and stands for the formula.  For the other operands of a chain
this is said of every beginning of the chain. -/
def Aim.Yields (limit depth : Nat) (text : List Char) (formula : Formula) : Aim → Prop
  | .phrase production =>
    ∃ nesting, Derives production text formula nesting ∧ Fits limit depth nesting
  | .others connective left =>
    ∀ leftText leftNesting, Derives (.binary connective) leftText left leftNesting →
      Fits limit depth leftNesting →
      ∃ nesting, Derives (.binary connective) (leftText ++ text) formula nesting ∧
        Fits limit depth nesting

namespace Aim

variable {limit depth : Nat} {text rest : List Char} {left right formula : Formula}
  {connective : Connective}

theorem yields_joined
    (hfirst : (phrase connective.operandLevel).Yields limit depth text left)
    (hrest : (others connective left).Yields limit depth rest formula) :
    (phrase (.binary connective)).Yields limit depth (text ++ rest) formula := by
  obtain ⟨nesting, hderives, hfits⟩ := hfirst
  exact hrest text nesting (.single hderives) hfits

theorem yields_done (connective : Connective) (left : Formula) :
    (others connective left).Yields limit depth [] left := by
  intro leftText leftNesting hleft hfits
  rw [List.append_nil]
  exact ⟨leftNesting, hleft, hfits⟩

theorem yields_more
    (hoperand : (phrase connective.operandLevel).Yields limit depth text right)
    (hrest : (others connective (.bin connective left right)).Yields limit depth rest formula) :
    (others connective left).Yields limit depth (connective.spelling ++ (text ++ rest))
      formula := by
  intro leftText leftNesting hleft hleftFits
  obtain ⟨nesting, hderives, hfits⟩ := hoperand
  obtain ⟨total, htotal, htotalFits⟩ :=
    hrest _ _ (.joined hleft hderives) (fits_max_iff.mpr ⟨hleftFits, hfits⟩)
  rw [List.append_assoc, List.append_assoc] at htotal
  exact ⟨total, htotal, htotalFits⟩

theorem yields_negated (room : depth < limit)
    (hcontent : (phrase .negation).Yields limit (depth + 1) text formula) :
    (phrase .negation).Yields limit depth ('!' :: text) (.neg formula) := by
  obtain ⟨nesting, hderives, hfits⟩ := hcontent
  exact ⟨nesting + 1, .negated hderives, fits_succ_iff.mpr ⟨room, hfits⟩⟩

theorem yields_plain (hcontent : (phrase .primary).Yields limit depth text formula) :
    (phrase .negation).Yields limit depth text formula := by
  obtain ⟨nesting, hderives, hfits⟩ := hcontent
  exact ⟨nesting, .plain hderives, hfits⟩

theorem yields_parenthesized (room : depth < limit)
    (hcontent : (phrase .formula).Yields limit (depth + 1) text formula) :
    (phrase .primary).Yields limit depth ('(' :: (text ++ [')'])) formula := by
  obtain ⟨nesting, hderives, hfits⟩ := hcontent
  exact ⟨nesting + 1, .parenthesized hderives, fits_succ_iff.mpr ⟨room, hfits⟩⟩

theorem yields_letter (letter : Letter) :
    (phrase .primary).Yields limit depth [letter.char] (.var letter.name) :=
  ⟨0, .letter letter, fits_zero limit depth⟩

theorem yields_literal (value : Bool) :
    (phrase .primary).Yields limit depth (literal value) (.const value) :=
  ⟨0, .literal value, fits_zero limit depth⟩

end Aim

/-- What has been read is what was asked for, and nothing is open that was not open before. -/
theorem Reads.yields {limit : Nat} {aim : Aim} {cursor : Cursor} {outcome : Outcome}
    (h : Reads limit aim cursor outcome) : ∀ {formula : Formula} {next : Cursor},
      outcome = .ok formula next →
      ∃ text, cursor.Passes text next ∧ next.depth = cursor.depth ∧
        aim.Yields limit cursor.depth text formula := by
  induction h with
  | joined _ _ ihfirst ihrest =>
    intro formula next heq
    obtain ⟨text, hpass, hdepth, hyields⟩ := ihfirst rfl
    obtain ⟨others, hpass', hdepth', hyields'⟩ := ihrest heq
    rw [hdepth] at hyields'
    exact ⟨_, hpass.trans hpass', hdepth'.trans hdepth, Aim.yields_joined hyields hyields'⟩
  | done _ =>
    intro formula next heq
    cases heq
    exact ⟨[], .refl _, rfl, Aim.yields_done _ _⟩
  | more present _ _ ihoperand ihrest =>
    intro formula next heq
    obtain ⟨text, hpass, hdepth, hyields⟩ := ihoperand rfl
    obtain ⟨others, hpass', hdepth', hyields'⟩ := ihrest heq
    rw [hdepth] at hyields'
    exact ⟨_, (Cursor.passes_advance present).trans (hpass.trans hpass'), hdepth'.trans hdepth,
      Aim.yields_more hyields hyields'⟩
  | negated sign room _ ih =>
    intro formula next heq
    cases heq
    obtain ⟨text, hpass, hdepth, hyields⟩ := ih rfl
    refine ⟨_, ((Cursor.passes_opened sign).trans hpass).closed, ?_,
      Aim.yields_negated room hyields⟩
    rw [Cursor.closed_depth, hdepth, Cursor.opened_depth, Nat.add_sub_cancel]
  | plain _ _ ih =>
    intro formula next heq
    obtain ⟨text, hpass, hdepth, hyields⟩ := ih heq
    exact ⟨text, hpass, hdepth, Aim.yields_plain hyields⟩
  | parenthesized sign room _ closing ih =>
    intro formula next heq
    cases heq
    obtain ⟨text, hpass, hdepth, hyields⟩ := ih rfl
    have hinside := (Cursor.passes_opened sign).trans hpass
    refine ⟨_, (hinside.trans (Cursor.passes_advance closing)).closed, ?_,
      Aim.yields_parenthesized room hyields⟩
    rw [Cursor.closed_depth, Cursor.advance_depth, hdepth, Cursor.opened_depth,
      Nat.add_sub_cancel]
  | @atom cursor _ =>
    intro formula next heq
    rcases Reader.atom_cases cursor with
      ⟨letter, hword, hatom⟩ | ⟨value, hword, hatom⟩ | ⟨_, _, hatom⟩
    · rw [hatom] at heq
      cases heq
      exact ⟨_, Cursor.passes_advance hword, rfl, Aim.yields_letter letter⟩
    · rw [hatom] at heq
      cases heq
      exact ⟨_, Cursor.passes_advance hword, rfl, Aim.yields_literal value⟩
    · rw [hatom] at heq
      cases heq
  | firstFails | operandFails | negatedFails | negationTooDeep | unclosed | contentFails
  | parenthesisTooDeep =>
    intro formula next heq
    cases heq

/-! ## Where reading ends -/

/-- Where the aim has come to its end, provided that the operand on the left has. -/
def Aim.Ends (cursor next : Cursor) : Aim → Prop
  | .phrase production => Stops production next.unread
  | .others connective _ =>
    Stops connective.operandLevel cursor.unread → Stops (.binary connective) next.unread

/-- Reading ends in front of a text with which the phrase does not go on. -/
theorem Reads.stops {limit : Nat} {aim : Aim} {cursor : Cursor} {outcome : Outcome}
    (h : Reads limit aim cursor outcome) : ∀ {formula : Formula} {next : Cursor},
      outcome = .ok formula next → aim.Ends cursor next := by
  induction h with
  | joined _ _ ihfirst ihrest =>
    intro formula next heq
    exact ihrest heq (ihfirst rfl)
  | done absent =>
    intro formula next heq hoperand
    cases heq
    exact stops_binary_iff.mpr ⟨absent, hoperand⟩
  | more _ _ _ ihoperand ihrest =>
    intro formula next heq _
    exact ihrest heq (ihoperand rfl)
  | negated | plain | parenthesized | atom =>
    intro _ _ _ connective hmem
    exact absurd hmem List.not_mem_nil
  | firstFails | operandFails | negatedFails | negationTooDeep | unclosed | contentFails
  | parenthesisTooDeep =>
    intro formula next heq
    cases heq

/-! ## Every phrase is read -/

/-- A phrase of the level has been read that stands for the formula, and reading for the level goes
on from the cursor to the outcome. -/
def Production.Continues (limit : Nat) (formula : Formula) (cursor : Cursor) (outcome : Outcome) :
    Production → Prop
  | .binary connective => Reads limit (.others connective formula) cursor outcome
  | .negation => outcome = .ok formula cursor
  | .primary => outcome = .ok formula cursor

/-- The operands of the level stop in front of the text. -/
def Production.OperandStops (text : List Char) : Production → Prop
  | .binary connective => Stops connective.operandLevel text
  | .negation => True
  | .primary => True

theorem Stops.operandStops {production : Production} {text : List Char}
    (h : Stops production text) : production.OperandStops text := by
  cases production with
  | binary connective => exact (stops_binary_iff.mp h).2
  | negation | primary => trivial

/-- In front of a text that stops the level, reading for the level is over. -/
theorem Stops.continues {production : Production} {cursor : Cursor}
    (h : Stops production cursor.unread) (limit : Nat) (formula : Formula) :
    production.Continues limit formula cursor (.ok formula cursor) := by
  cases production with
  | binary connective => exact .done (stops_binary_iff.mp h).1
  | negation | primary => rfl

/-- A primary does not begin with a negation sign. -/
theorem Derives.not_negation {text : List Char} {formula : Formula} {nesting : Nat}
    (h : Derives .primary text formula nesting) (rest : List Char) :
    ¬ Token.negation.spelling <+: text ++ rest := by
  cases h with
  | letter letter =>
    show ¬ Token.negation.spelling <+: (Token.letter letter).spelling ++ rest
    exact Token.not_prefix_of_ne (by simp) rest
  | literal value =>
    show ¬ Token.negation.spelling <+: (Token.constant value).spelling ++ rest
    exact Token.not_prefix_of_ne (by simp) rest
  | @parenthesized text _ nesting _ =>
    show ¬ Token.negation.spelling <+: Token.leftParen.spelling ++ ((text ++ [')']) ++ rest)
    exact Token.not_prefix_of_ne (by simp) _

/-- A phrase is read to its end, and reading for its level goes on from there. -/
theorem Derives.reads {production : Production} {text : List Char} {formula : Formula}
    {nesting : Nat} (h : Derives production text formula nesting) :
    ∀ (limit : Nat) (rest : List Char) (position depth : Nat) (outcome : Outcome),
      Fits limit depth nesting → production.OperandStops rest →
      production.Continues limit formula ⟨rest, position + text.length, depth⟩ outcome →
      Reads limit (.phrase production) ⟨text ++ rest, position, depth⟩ outcome := by
  induction h with
  | letter letter =>
    intro limit rest position depth outcome _ _ hrest
    subst hrest
    have habsent : ¬ Token.leftParen.spelling <+: (Token.letter letter).spelling ++ rest :=
      Token.not_prefix_of_ne (by simp) rest
    rw [List.length_singleton, ← Reader.atom_letter]
    exact .atom habsent
  | literal value =>
    intro limit rest position depth outcome _ _ hrest
    subst hrest
    have habsent : ¬ Token.leftParen.spelling <+: (Token.constant value).spelling ++ rest :=
      Token.not_prefix_of_ne (by simp) rest
    rw [← Reader.atom_literal]
    exact .atom habsent
  | @parenthesized text formula nesting _ ih =>
    intro limit rest position depth outcome hfits _ hrest
    subst hrest
    obtain ⟨room, hfits⟩ := fits_succ_iff.mp hfits
    have hstops : Stops .formula (Token.rightParen.spelling ++ rest) :=
      stops_token (by decide) rest
    have hcontent := ih limit (Token.rightParen.spelling ++ rest) (position + 1) (depth + 1) _ hfits
      hstops.operandStops (hstops.continues limit formula)
    have hunread : '(' :: (text ++ [')']) ++ rest =
        '(' :: (text ++ (Token.rightParen.spelling ++ rest)) := by
      rw [List.cons_append, List.append_assoc]
      rfl
    have hposition : position + ('(' :: (text ++ [')'])).length =
        position + 1 + text.length + 1 := by
      simp only [List.length_cons, List.length_append, List.length_nil]
      omega
    rw [← Cursor.opened_cons '('] at hcontent
    rw [hunread, hposition]
    exact .parenthesized ⟨_, rfl⟩ room hcontent (List.prefix_append _ _)
  | plain inside ih =>
    intro limit rest position depth outcome hfits _ hrest
    subst hrest
    exact .plain (inside.not_negation rest) (ih limit rest position depth _ hfits trivial rfl)
  | @negated text formula nesting _ ih =>
    intro limit rest position depth outcome hfits _ hrest
    subst hrest
    obtain ⟨room, hfits⟩ := fits_succ_iff.mp hfits
    have hcontent := ih limit rest (position + 1) (depth + 1) _ hfits trivial rfl
    have hposition : position + ('!' :: text).length = position + 1 + text.length := by
      rw [List.length_cons]
      omega
    rw [← Cursor.opened_cons '!'] at hcontent
    rw [hposition]
    exact .negated ⟨_, rfl⟩ room hcontent
  | @single connective text formula nesting _ ih =>
    intro limit rest position depth outcome hfits hoperand hrest
    have hstops : Stops connective.operandLevel rest := hoperand
    have hfirst := ih limit rest position depth _ hfits hstops.operandStops
      (hstops.continues limit formula)
    exact .joined hfirst hrest
  | @joined connective leftText left leftNesting rightText right rightNesting _ _ ihfirst ihlast =>
    intro limit rest position depth outcome hfits hoperand hrest
    have hstops : Stops connective.operandLevel rest := hoperand
    obtain ⟨hleftFits, hrightFits⟩ := fits_max_iff.mp hfits
    have hright := ihlast limit rest (position + leftText.length + connective.spelling.length)
      depth _ hrightFits hstops.operandStops (hstops.continues limit right)
    have hposition : position + (leftText ++ (connective.spelling ++ rightText)).length =
        position + leftText.length + connective.spelling.length + rightText.length := by
      simp only [List.length_append]
      omega
    rw [hposition] at hrest
    rw [List.append_assoc, List.append_assoc]
    apply ihfirst limit _ position depth outcome hleftFits (stops_operandLevel connective _)
    rw [← Cursor.advance_append] at hright
    exact .more (List.prefix_append _ _) hright hrest

/-- A level is read to its end exactly if a phrase of the level comes next that fits and that the
text behind it does not go on with. -/
theorem reads_ok_iff {limit : Nat} {production : Production} {cursor next : Cursor}
    {formula : Formula} :
    Reads limit (.phrase production) cursor (.ok formula next) ↔
      ∃ text nesting, cursor.Passes text next ∧ next.depth = cursor.depth ∧
        Derives production text formula nesting ∧ Fits limit cursor.depth nesting ∧
        Stops production next.unread := by
  constructor
  · intro h
    obtain ⟨text, hpass, hdepth, nesting, hderives, hfits⟩ := h.yields rfl
    exact ⟨text, nesting, hpass, hdepth, hderives, hfits, h.stops rfl⟩
  · intro h
    obtain ⟨text, nesting, hpass, hdepth, hderives, hfits, hstops⟩ := h
    obtain ⟨unread, position, depth⟩ := cursor
    obtain ⟨rest, position', depth'⟩ := next
    obtain ⟨hunread, hposition⟩ := hpass
    simp only at hunread hposition hdepth
    subst hunread hposition hdepth
    exact hderives.reads limit rest position depth' _ hfits hstops.operandStops
      (hstops.continues limit formula)

/-! ## Whole texts -/

/-- A text that is a phrase as a whole is read to its end, if the limit allows for it. -/
theorem Derives.reads_whole {production : Production} {text : List Char} {formula : Formula}
    {nesting : Nat} (h : Derives production text formula nesting) {limit : Nat}
    (hlimit : nesting ≤ limit) :
    Reads limit (.phrase production) (Cursor.start text) (.ok formula ⟨[], text.length, 0⟩) := by
  refine reads_ok_iff.mpr ⟨text, nesting, ⟨?_, ?_⟩, rfl, h, fits_start_iff.mpr hlimit, ?_⟩
  · exact (List.append_nil text).symm
  · exact (Nat.zero_add text.length).symm
  · exact stops_nil production

/-- A text is a phrase of a level for at most one formula, however deep it nests. -/
theorem Derives.unique {production : Production} {text : List Char} {formula formula' : Formula}
    {nesting nesting' : Nat} (h : Derives production text formula nesting)
    (h' : Derives production text formula' nesting') : formula = formula' := by
  have hread := h.reads_whole (Nat.le_max_left nesting nesting')
  have hread' := h'.reads_whole (Nat.le_max_right nesting nesting')
  cases hread.unique hread'
  rfl

theorem Cursor.leftover?_eq_none_iff {cursor : Cursor} :
    cursor.leftover? = none ↔ cursor.unread = [] := by
  obtain ⟨_ | ⟨char, rest⟩, position, depth⟩ := cursor
  · exact iff_of_true rfl rfl
  · unfold leftover?
    cases Token.next? (char :: rest) <;> simp

/-- A text that is not too long is a formula if reading it as one leaves nothing over. -/
theorem ofCanonical_eq_ok_iff {text : List Char} {formula : Formula} :
    Formula.ofCanonical text = .ok formula ↔
      text.length ≤ lengthLimit ∧
        ∃ next, Reads nestingLimit (.phrase .formula) (Cursor.start text) (.ok formula next) ∧
          next.unread = [] := by
  unfold Formula.ofCanonical
  by_cases hlength : lengthLimit < text.length
  · rw [if_pos hlength]
    have hnot : ¬ text.length ≤ lengthLimit := by omega
    simp [hnot]
  rw [if_neg hlength]
  have hle : text.length ≤ lengthLimit := by omega
  cases hread : Production.formula.read (Cursor.start text) with
  | error rejection stop =>
    simp only [reduceCtorEq, false_iff]
    intro h
    obtain ⟨_, next, hreads, _⟩ := h
    rw [read_eq_iff.mpr hreads] at hread
    cases hread
  | ok formula' next =>
    have hreads := read_eq_iff.mp hread
    dsimp only
    cases hleft : next.leftover? with
    | none =>
      have hnil := Cursor.leftover?_eq_none_iff.mp hleft
      constructor
      · intro heq
        cases heq
        exact ⟨hle, next, hreads, hnil⟩
      · intro h
        obtain ⟨_, next', hreads', _⟩ := h
        cases hreads.unique hreads'
        rfl
    | some rejection =>
      simp only [reduceCtorEq, false_iff]
      intro h
      obtain ⟨_, next', hreads', hnil⟩ := h
      cases hreads.unique hreads'
      rw [Cursor.leftover?_eq_none_iff.mpr hnil] at hleft
      cases hleft

/-- A text that is not too long is rejected where reading fails, or where it leaves something
over. -/
theorem ofCanonical_eq_error {text : List Char} {rejection : Rejection}
    (hlength : text.length ≤ lengthLimit) (h : Formula.ofCanonical text = .error rejection) :
    (∃ stop, Reads nestingLimit (.phrase .formula) (Cursor.start text) (.error rejection stop)) ∨
      ∃ formula stop,
        Reads nestingLimit (.phrase .formula) (Cursor.start text) (.ok formula stop) ∧
          stop.leftover? = some rejection := by
  unfold Formula.ofCanonical at h
  rw [if_neg (by omega)] at h
  cases hread : Production.formula.read (Cursor.start text) with
  | error cause stop =>
    rw [hread] at h
    cases h
    exact .inl ⟨stop, read_eq_iff.mp hread⟩
  | ok formula stop =>
    rw [hread] at h
    cases hleft : stop.leftover? with
    | none => simp [hleft] at h
    | some cause =>
      simp only [hleft, Except.error.injEq] at h
      subst h
      exact .inr ⟨formula, stop, read_eq_iff.mp hread, hleft⟩

/-- A text that is read as a formula is derived by the grammar, within the limit on nesting. -/
theorem derives_of_ofCanonical {text : List Char} {formula : Formula}
    (h : Formula.ofCanonical text = .ok formula) :
    ∃ nesting, Derives .formula text formula nesting ∧ nesting ≤ nestingLimit := by
  obtain ⟨_, next, hreads, hnil⟩ := ofCanonical_eq_ok_iff.mp h
  obtain ⟨phrase, nesting, hpass, _, hderives, hfits, _⟩ := reads_ok_iff.mp hreads
  have htext : text = phrase := by
    have hunread := hpass.unread
    rw [hnil, List.append_nil] at hunread
    exact hunread
  subst htext
  exact ⟨nesting, hderives, fits_start_iff.mp hfits⟩

/-- Reading accepts exactly what the grammar derives within the two limits, and the grammar derives
at most one formula from a text. -/
theorem ofCanonical_eq_ok_iff_derives (text : List Char) :
    (∀ formula : Formula,
      Formula.ofCanonical text = .ok formula ↔
        text.length ≤ lengthLimit ∧
          ∃ nesting, Derives .formula text formula nesting ∧ nesting ≤ nestingLimit) ∧
    ∀ (formula formula' : Formula) (nesting nesting' : Nat),
      Derives .formula text formula nesting → Derives .formula text formula' nesting' →
        formula = formula' := by
  refine ⟨fun formula => ?_, fun _ _ _ _ h h' => h.unique h'⟩
  constructor
  · intro h
    have hlength := (ofCanonical_eq_ok_iff.mp h).1
    exact ⟨hlength, derives_of_ofCanonical h⟩
  · intro h
    obtain ⟨hlength, nesting, hderives, hlimit⟩ := h
    exact ofCanonical_eq_ok_iff.mpr ⟨hlength, _, hderives.reads_whole hlimit, rfl⟩

/-! ## Leaves -/

/-- The formula has no other variables than the letters. -/
def Formula.OverLetters (formula : Formula) : Prop :=
  ∀ leaf ∈ formula.leaves, ∃ letter : Letter, leaf = letter.name

theorem Derives.overLetters {production : Production} {text : List Char} {formula : Formula}
    {nesting : Nat} (h : Derives production text formula nesting) : formula.OverLetters := by
  induction h with
  | letter letter =>
    intro leaf hleaf
    exact ⟨letter, List.mem_singleton.mp hleaf⟩
  | literal value =>
    intro leaf hleaf
    exact absurd hleaf List.not_mem_nil
  | parenthesized _ ih | plain _ ih | negated _ ih | single _ ih => exact ih
  | joined _ _ ihfirst ihlast =>
    intro leaf hleaf
    rcases List.mem_append.mp hleaf with hleft | hright
    · exact ihfirst leaf hleft
    · exact ihlast leaf hright

/-- A formula that is read from a text is over letters. -/
theorem overLetters_of_ofTyped {text : String} {formula : Formula}
    (h : Formula.ofTyped text = .ok formula) : formula.OverLetters := by
  obtain ⟨nesting, hderives, _⟩ := derives_of_ofCanonical h
  exact hderives.overLetters

end Propositional
