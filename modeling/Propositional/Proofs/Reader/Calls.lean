import Propositional.Proofs.Reader.Depth

/-!
# Which readers are at work

While a text is read, readers of several levels are at work inside each other.  `Calls` has the
work that one reader hands on without opening a construct, `Descends` the signs at which a level is
entered again, and `AtWork` what comes of the two from the beginning on, with the number of descents
that are open around it.

* `level_eq_read`: these are all descents.  A level whose re-entries are read by other readers reads
  the same as long as those agree with the readers of the grammar there.
* `AtWork.depth_eq` and `AtWork.count_le`: the depth that a cursor counts is the number of open
  descents, and no descent is begun where there is no room.
* `within_eq_read`: so a reader that may be entered again only as often as there is room reads the
  same, whatever lies deeper.
* `leadsTo_wellFounded`: each descent and each round of a chain leaves less to read, and the levels
  that are passed on the way down are finitely many, so work comes to an end.
-/

namespace Propositional

/-! ## Calls and descents -/

/-- Work for an aim at a cursor that leads to work for another one in the same construct.  A level of
a connective begins with its first operand; a chain goes on, behind each connective, with another
operand and another round. -/
inductive Calls : Aim → Cursor → Aim → Cursor → Prop where
  | first (connective : Connective) (cursor : Cursor) :
      Calls (.phrase (.binary connective)) cursor (.phrase connective.operandLevel) cursor
  | others {connective cursor left next}
      (read : connective.operandLevel.read cursor = .ok left next) :
      Calls (.phrase (.binary connective)) cursor (.others connective left) next
  | operand {connective left cursor} (present : connective.spelling <+: cursor.unread) :
      Calls (.others connective left) cursor (.phrase connective.operandLevel)
        (cursor.advance connective.spelling.length)
  | round {connective left cursor right next} (present : connective.spelling <+: cursor.unread)
      (read : connective.operandLevel.read (cursor.advance connective.spelling.length) =
        .ok right next) :
      Calls (.others connective left) cursor (.others connective (.bin connective left right)) next
  | plain {cursor} (absent : ¬ ['!'] <+: cursor.unread) :
      Calls (.phrase .negation) cursor (.phrase .primary) cursor

/-- A sign comes next that opens a construct with a phrase of the level in it. -/
inductive Descends : Aim → Cursor → Production → Prop where
  | negation {cursor} (sign : ['!'] <+: cursor.unread) :
      Descends (.phrase .negation) cursor .negation
  | parenthesis {cursor} (sign : ['('] <+: cursor.unread) :
      Descends (.phrase .primary) cursor .formula

/-- Work for the first aim at the first cursor leads to work for the other ones, around which so many
descents are open. -/
inductive AtWork (aim : Aim) (start : Cursor) : Nat → Aim → Cursor → Prop where
  | outset : AtWork aim start 0 aim start
  | call {count caller cursor callee next} (work : AtWork aim start count caller cursor)
      (calls : Calls caller cursor callee next) : AtWork aim start count callee next
  | descent {count caller cursor content} (work : AtWork aim start count caller cursor)
      (descends : Descends caller cursor content) (room : cursor.depth < nestingLimit) :
      AtWork aim start (count + 1) (.phrase content) cursor.opened

/-- So many descents are open at once at some moment: those around the work that is done then, and
the one that it begins, whether or not there is room for it. -/
inductive OpenAtOnce (aim : Aim) (start : Cursor) : Nat → Prop where
  | around {count caller cursor} (work : AtWork aim start count caller cursor) :
      OpenAtOnce aim start count
  | begun {count caller cursor content} (work : AtWork aim start count caller cursor)
      (descends : Descends caller cursor content) : OpenAtOnce aim start (count + 1)

/-! ## Less is left to read -/

section Progress

variable {aim callee : Aim} {cursor next : Cursor} {content : Production}

/-- The next sign is passed by a descent. -/
theorem Descends.length_lt (h : Descends aim cursor content) :
    cursor.opened.unread.length < cursor.unread.length := by
  cases h with
  | negation sign | parenthesis sign =>
    exact (Cursor.passes_opened sign).length_lt (List.cons_ne_nil _ _)

theorem length_lt_of_read {production : Production} {formula : Formula}
    (h : production.read cursor = .ok formula next) :
    next.unread.length < cursor.unread.length := by
  obtain ⟨passed, hne, hpass, _⟩ := (read_eq_iff.mp h).returns
  exact hpass.length_lt hne

theorem depth_eq_of_read {production : Production} {formula : Formula}
    (h : production.read cursor = .ok formula next) : next.depth = cursor.depth := by
  obtain ⟨_, _, _, hdepth⟩ := (read_eq_iff.mp h).returns
  exact hdepth

/-- A round of a chain passes the connective, and the operand if it goes on behind it. -/
theorem Calls.length_lt {connective : Connective} {left : Formula}
    (h : Calls (.others connective left) cursor callee next) :
    next.unread.length < cursor.unread.length := by
  cases h with
  | operand present => exact (Cursor.passes_advance present).length_lt connective.spelling_ne_nil
  | round present read =>
    have hspelling := (Cursor.passes_advance present).length_lt connective.spelling_ne_nil
    have hoperand := length_lt_of_read read
    omega

theorem Calls.depth_eq (h : Calls aim cursor callee next) : next.depth = cursor.depth := by
  cases h with
  | first | operand | plain => rfl
  | others read => exact depth_eq_of_read read
  | @round connective _ _ _ _ _ read =>
    show next.depth = (cursor.advance connective.spelling.length).depth
    exact depth_eq_of_read read

/-- The levels that lie below an aim, at the same cursor. -/
def Aim.rank : Aim → Nat
  | .phrase (.binary connective) => (Production.binary connective).connectives.length + 1
  | .phrase .negation => 1
  | .phrase .primary => 0
  | .others _ _ => 0

theorem Aim.rank_operandLevel_lt (connective : Connective) :
    (phrase connective.operandLevel).rank < (phrase (.binary connective)).rank := by
  cases connective <;> decide

/-- A call leaves less to read, or it goes to a lower level at the same cursor. -/
theorem Calls.progress (h : Calls aim cursor callee next) :
    next.unread.length < cursor.unread.length ∨
      next.unread.length = cursor.unread.length ∧ callee.rank < aim.rank := by
  cases aim with
  | others connective left => exact .inl h.length_lt
  | phrase production =>
    cases h with
    | first connective _ => exact .inr ⟨rfl, Aim.rank_operandLevel_lt connective⟩
    | others read => exact .inl (length_lt_of_read read)
    | plain _ => exact .inr ⟨rfl, Nat.zero_lt_one⟩

/-- Work that leads to other work, in the same construct or in one that it opens. -/
def LeadsTo (work next : Aim × Cursor) : Prop :=
  Calls work.1 work.2 next.1 next.2 ∨
    ∃ content, Descends work.1 work.2 content ∧ next = (.phrase content, work.2.opened)

/-- No work leads to other work for ever. -/
theorem leadsTo_wellFounded : WellFounded fun next work => LeadsTo work next := by
  have hlex : WellFounded (InvImage (Prod.Lex (· < ·) (· < ·)) fun work : Aim × Cursor =>
      (work.2.unread.length, work.1.rank)) :=
    InvImage.wf _ (Prod.lex Nat.lt_wfRel Nat.lt_wfRel).wf
  refine Subrelation.wf (fun {next work} h => ?_) hlex
  rcases h with hcalls | ⟨content, hdescends, heq⟩
  · rcases hcalls.progress with hlt | ⟨hlength, hrank⟩
    · exact .left _ _ hlt
    · exact Prod.lex_def.mpr (.inr ⟨hlength, hrank⟩)
  · subst heq
    exact .left _ _ hdescends.length_lt

end Progress

/-! ## Open descents -/

section Open

variable {aim callee caller : Aim} {start cursor next : Cursor} {count : Nat}

theorem AtWork.of_call (hcalls : Calls aim start callee next)
    (h : AtWork callee next count caller cursor) : AtWork aim start count caller cursor := by
  induction h with
  | outset => exact .call .outset hcalls
  | call _ calls ih => exact .call ih calls
  | descent _ descends room ih => exact .descent ih descends room

/-- A cursor counts the descents that are open. -/
theorem AtWork.depth_eq (h : AtWork aim start count caller cursor) :
    cursor.depth = start.depth + count := by
  induction h with
  | outset => rfl
  | call _ calls ih => rw [calls.depth_eq, ih]
  | descent _ _ _ ih => rw [Cursor.opened_depth, ih, Nat.add_assoc]

theorem AtWork.count_le (h : AtWork aim start count caller cursor) :
    count = 0 ∨ start.depth + count ≤ nestingLimit := by
  induction h with
  | outset => exact .inl rfl
  | call _ _ ih => exact ih
  | descent work _ room _ =>
    have hdepth := work.depth_eq
    omega

/-- From the beginning of a text on, one descent more than the limit may be open, which is the one
that is rejected. -/
theorem OpenAtOnce.count_le {text : List Char} (h : OpenAtOnce aim (Cursor.start text) count) :
    count ≤ nestingLimit + 1 := by
  have hdepth : (Cursor.start text).depth = 0 := rfl
  cases h with
  | around work | begun work _ =>
    have hle := work.count_le
    omega

end Open

/-! ## Readers for the re-entries -/

section Reentry

variable {inner : Production → Reader Formula}

theorem Production.level_binary (inner : Production → Reader Formula) (connective : Connective) :
    (binary connective).level inner =
      Reader.joined connective (connective.operandLevel.level inner) := by
  cases connective <;> rfl

/-- The readers for the re-entries read as the grammar does wherever work at the cursor descends. -/
def Agrees (inner : Production → Reader Formula) (aim : Aim) (cursor : Cursor) : Prop :=
  ∀ caller place content, AtWork aim cursor 0 caller place → Descends caller place content →
    place.depth < nestingLimit → inner content place.opened = content.read place.opened

theorem Agrees.of_call {aim callee : Aim} {cursor next : Cursor} (h : Agrees inner aim cursor)
    (hcalls : Calls aim cursor callee next) : Agrees inner callee next :=
  fun caller place content work => h caller place content (work.of_call hcalls)

/-- What the rules derive for the content of a construct is what its reader gives. -/
theorem Agrees.eq_of_reads {aim : Aim} {cursor : Cursor} {content : Production} {outcome : Outcome}
    (h : Agrees inner aim cursor) (hdescends : Descends aim cursor content)
    (room : cursor.depth < nestingLimit)
    (hreads : Reads nestingLimit (.phrase content) cursor.opened outcome) :
    inner content cursor.opened = outcome :=
  (h aim cursor content .outset hdescends room).trans (read_eq_iff.mpr hreads)

/-- With these readers for the re-entries, reading for the aim from the cursor has the outcome.  For
the other operands of a chain, so many rounds as characters are enough. -/
def Aim.Gives (inner : Production → Reader Formula) (cursor : Cursor) (outcome : Outcome) :
    Aim → Prop
  | .phrase production => production.level inner cursor = outcome
  | .others connective left => ∀ rounds, cursor.unread.length ≤ rounds →
      Reader.chain connective (connective.operandLevel.level inner) rounds left cursor = outcome

/-- What the rules derive is what the levels give over readers that agree. -/
theorem Reads.gives {aim : Aim} {cursor : Cursor} {outcome : Outcome}
    (h : Reads nestingLimit aim cursor outcome) :
    Agrees inner aim cursor → aim.Gives inner cursor outcome := by
  induction h with
  | @joined connective cursor left next _ first _ ihfirst ihrest =>
    intro hagrees
    have hfirst : connective.operandLevel.level inner cursor = .ok left next :=
      ihfirst (hagrees.of_call (.first connective cursor))
    have hrest := ihrest (hagrees.of_call (.others (read_eq_iff.mpr first)))
    rw [Aim.Gives, Production.level_binary, Reader.joined_apply, hfirst]
    exact hrest _ (Nat.le_refl _)
  | @firstFails connective cursor rejection stop _ ihfirst =>
    intro hagrees
    have hfirst : connective.operandLevel.level inner cursor = .error rejection stop :=
      ihfirst (hagrees.of_call (.first connective cursor))
    rw [Aim.Gives, Production.level_binary, Reader.joined_apply, hfirst]
  | done absent =>
    intro _ rounds _
    cases rounds with
    | zero => rfl
    | succ rounds => rw [Reader.chain_succ, if_neg absent]
  | @more connective left cursor right next _ present operand _ ihoperand ihrest =>
    intro hagrees rounds hrounds
    have hoperand : connective.operandLevel.level inner
        (cursor.advance connective.spelling.length) = .ok right next :=
      ihoperand (hagrees.of_call (.operand present))
    have hround : Calls (.others connective left) cursor
        (.others connective (.bin connective left right)) next :=
      .round present (read_eq_iff.mpr operand)
    have hlt := hround.length_lt
    obtain ⟨rounds, rfl⟩ : ∃ fewer, rounds = fewer + 1 := ⟨rounds - 1, by omega⟩
    rw [Reader.chain_succ, if_pos present, hoperand]
    exact ihrest (hagrees.of_call hround) rounds (by omega)
  | @operandFails connective left cursor rejection stop present _ ihoperand =>
    intro hagrees rounds hrounds
    have hcall : Calls (.others connective left) cursor (.phrase connective.operandLevel)
        (cursor.advance connective.spelling.length) := .operand present
    have hoperand : connective.operandLevel.level inner
        (cursor.advance connective.spelling.length) = .error rejection stop :=
      ihoperand (hagrees.of_call hcall)
    have hlt := hcall.length_lt
    obtain ⟨rounds, rfl⟩ : ∃ fewer, rounds = fewer + 1 := ⟨rounds - 1, by omega⟩
    rw [Reader.chain_succ, if_pos present, hoperand]
  | negated sign room content _ | negatedFails sign room content _ =>
    intro hagrees
    have hcontent := hagrees.eq_of_reads (.negation sign) room content
    show Reader.negation inner _ = _
    rw [Reader.negation_apply, if_pos sign, if_pos room, hcontent]
  | negationTooDeep sign full =>
    intro _
    show Reader.negation inner _ = _
    rw [Reader.negation_apply, if_pos sign, if_neg (Nat.not_lt.mpr full)]
  | plain absent _ ihcontent =>
    intro hagrees
    have hcontent : Reader.primary inner _ = _ := ihcontent (hagrees.of_call (.plain absent))
    show Reader.negation inner _ = _
    rw [Reader.negation_apply, if_neg absent, hcontent]
  | parenthesized sign room content closing _ =>
    intro hagrees
    have hcontent := hagrees.eq_of_reads (.parenthesis sign) room content
    show Reader.primary inner _ = _
    rw [Reader.primary_apply, if_pos sign, if_pos room, hcontent]
    exact if_pos closing
  | unclosed sign room content absent _ =>
    intro hagrees
    have hcontent := hagrees.eq_of_reads (.parenthesis sign) room content
    show Reader.primary inner _ = _
    rw [Reader.primary_apply, if_pos sign, if_pos room, hcontent]
    exact if_neg absent
  | contentFails sign room content _ =>
    intro hagrees
    have hcontent := hagrees.eq_of_reads (.parenthesis sign) room content
    show Reader.primary inner _ = _
    rw [Reader.primary_apply, if_pos sign, if_pos room, hcontent]
  | parenthesisTooDeep sign full =>
    intro _
    show Reader.primary inner _ = _
    rw [Reader.primary_apply, if_pos sign, if_neg (Nat.not_lt.mpr full)]
  | atom absent =>
    intro _
    show Reader.primary inner _ = _
    rw [Reader.primary_apply, if_neg absent]

/-- A level asks the readers for its re-entries at the descents of its own work and nowhere else. -/
theorem level_eq_read {production : Production} {cursor : Cursor}
    (h : Agrees inner (.phrase production) cursor) :
    production.level inner cursor = production.read cursor :=
  (reads_read production cursor).gives h

/-- As many re-entries as there is room for are enough: what lies deeper is never asked. -/
theorem within_eq_read (innermost : Reader Formula) :
    ∀ (entries : Nat) (production : Production) (cursor : Cursor),
      nestingLimit ≤ cursor.depth + entries →
      production.within innermost (entries + 1) cursor = production.read cursor := by
  intro entries
  induction entries with
  | zero =>
    intro production cursor hlimit
    refine level_eq_read fun caller place content work _ room => ?_
    have hdepth := work.depth_eq
    omega
  | succ entries ih =>
    intro production cursor hlimit
    refine level_eq_read fun caller place content work _ room => ?_
    have hdepth := work.depth_eq
    refine ih content place.opened ?_
    rw [Cursor.opened_depth]
    omega

end Reentry

end Propositional
