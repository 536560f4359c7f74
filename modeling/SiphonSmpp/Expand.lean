/-
This file models the expansion of environment variables in a configuration text
(`expand_env_vars` in `src/config.rs`). The scanner looks for an opener, then for
the closing brace after it, and replaces what stands between them by the value of
a variable, a default or nothing. An opener without a closing brace is copied,
and the scan goes on behind it.

A `Reading` cuts a text into literals and references once and for all, without
looking at the environment. Every text has exactly one, and the scanner puts the
values of the references in their places (`text_expanded_once`).
-/

import SiphonSmpp.EnvBinds

namespace SiphonSmpp

/-! ### The scanner -/

def opener : List Char := ['$', '{']

def closer : List Char := ['}']

def separator : List Char := [':', '-']

/-- What a reference is replaced by: the variable, else the default, else nothing. -/
def referenceValue (env : Environment) (spec : List Char) : List Char :=
  let parts : List Char × Option (List Char) :=
    match Markers.before? separator spec with
    | some name => (name, some (spec.drop (name.length + 2)))
    | none => (spec, none)
  ((env.get? parts.1).or parts.2).getD []

/-- The loop of the scanner, with what was put out so far and the rest of the input. -/
def expandLoop (env : Environment) (out rest : List Char) : List Char :=
  match _ : Markers.before? opener rest with
  | none => out ++ rest
  | some literal =>
    let after := rest.drop (literal.length + 2)
    match Markers.before? closer after with
    | none => expandLoop env (out ++ literal ++ opener) after
    | some spec =>
      expandLoop env (out ++ literal ++ referenceValue env spec) (after.drop (spec.length + 1))
termination_by rest.length
decreasing_by
  all_goals
    have found : Markers.before? opener rest = some literal := by assumption
    have fits := (Markers.before?_eq_some_iff.mp found).1.length_le
    simp only [List.length_append, opener, List.length_cons, List.length_nil,
      List.length_drop] at fits ⊢
    omega

/-- Expand the references of a text against the environment. -/
def expandEnvVars (env : Environment) (input : List Char) : List Char := expandLoop env [] input

/-! ### One step of the scanner -/

theorem opener_terminated : Markers.Terminated '{' opener := ⟨['$'], rfl, by decide⟩

theorem closer_terminated : Markers.Terminated '}' closer := ⟨[], rfl, by decide⟩

theorem separator_terminated : Markers.Terminated '-' separator := ⟨[':'], rfl, by decide⟩

section Step

variable (env : Environment) (out : List Char)

theorem expandLoop_plain {rest : List Char} (plain : ¬ opener <:+: rest) :
    expandLoop env out rest = out ++ rest := by
  rw [expandLoop]
  split
  · rfl
  · rename_i literal found
    rw [Markers.before?_eq_none_iff.mpr plain] at found
    cases found

theorem expandLoop_opened {literal after : List Char} (plain : ¬ opener <:+: literal) :
    expandLoop env out (literal ++ opener ++ after) =
      match Markers.before? closer after with
      | none => expandLoop env (out ++ literal ++ opener) after
      | some spec =>
        expandLoop env (out ++ literal ++ referenceValue env spec)
          (after.drop (spec.length + 1)) := by
  have opened : Markers.before? opener (literal ++ opener ++ after) = some literal :=
    opener_terminated.before?_eq_some_iff.mpr ⟨after, rfl, plain⟩
  have behind : (literal ++ opener ++ after).drop (literal.length + 2) = after :=
    List.drop_left' (by rw [List.length_append]; rfl)
  rw [expandLoop]
  split
  · rename_i missing
    rw [opened] at missing
    cases missing
  · rename_i found same
    rw [opened, Option.some.injEq] at same
    subst same
    rw [behind]

/-- A reference is replaced, and the scan goes on behind it. -/
theorem expandLoop_reference {literal spec rest : List Char} (plain : ¬ opener <:+: literal)
    (unclosed : '}' ∉ spec) :
    expandLoop env out (literal ++ opener ++ (spec ++ closer ++ rest)) =
      expandLoop env (out ++ literal ++ referenceValue env spec) rest := by
  have closed : Markers.before? closer (spec ++ closer ++ rest) = some spec :=
    closer_terminated.before?_eq_some_iff.mpr ⟨rest, rfl, closer_terminated.absent unclosed⟩
  have behind : (spec ++ closer ++ rest).drop (spec.length + 1) = rest :=
    List.drop_left' (by rw [List.length_append]; rfl)
  rw [expandLoop_opened env out plain, closed]
  dsimp only
  rw [behind]

/-- An opener without a closing brace is copied, and the scan goes on behind it. -/
theorem expandLoop_unclosed {literal after : List Char} (plain : ¬ opener <:+: literal)
    (unclosed : '}' ∉ after) :
    expandLoop env out (literal ++ opener ++ after) =
      expandLoop env (out ++ literal ++ opener) after := by
  rw [expandLoop_opened env out plain,
    Markers.before?_eq_none_iff.mpr (closer_terminated.absent unclosed)]

end Step

/-! ### Readings -/

/-- A text with no reference: behind each of its openers there is no closing brace. -/
def Unreferenced (text : List Char) : Prop :=
  ∀ before after, text = before ++ opener ++ after → '}' ∉ after

/-- A text cut into references, each with the literal before it, and what is left behind the
last one. -/
@[ext] structure Reading where
  references : List (List Char × List Char)
  tail : List Char
  literal_plain : ∀ reference ∈ references, ¬ opener <:+: reference.1
  spec_unclosed : ∀ reference ∈ references, '}' ∉ reference.2
  tail_unreferenced : Unreferenced tail

namespace Reading

/-- The text that is read. -/
def text (reading : Reading) : List Char :=
  reading.references.foldr
    (fun reference rest => reference.1 ++ opener ++ (reference.2 ++ closer ++ rest)) reading.tail

/-- The text with the values of the references in their places. -/
def expanded (env : Environment) (reading : Reading) : List Char :=
  (reading.references.flatMap fun reference => reference.1 ++ referenceValue env reference.2) ++
    reading.tail

/-- A reading with one more reference at the front. -/
def cons (literal spec : List Char) (plain : ¬ opener <:+: literal) (unclosed : '}' ∉ spec)
    (reading : Reading) : Reading where
  references := (literal, spec) :: reading.references
  tail := reading.tail
  literal_plain := List.forall_mem_cons.mpr ⟨plain, reading.literal_plain⟩
  spec_unclosed := List.forall_mem_cons.mpr ⟨unclosed, reading.spec_unclosed⟩
  tail_unreferenced := reading.tail_unreferenced

/-- What holds of the readings without references, and passes to readings with one more, holds
of all. -/
theorem induction {motive : Reading → Prop}
    (unreferenced : ∀ tail plain, motive ⟨[], tail, List.forall_mem_nil _, List.forall_mem_nil _,
      plain⟩)
    (reference : ∀ literal spec plain unclosed reading, motive reading →
      motive (cons literal spec plain unclosed reading)) (reading : Reading) : motive reading := by
  obtain ⟨references, tail, plain, unclosed, unreferencedTail⟩ := reading
  induction references with
  | nil => exact unreferenced tail unreferencedTail
  | cons first rest inductionHypothesis =>
    have plains := List.forall_mem_cons.mp plain
    have specs := List.forall_mem_cons.mp unclosed
    exact reference first.1 first.2 plains.1 specs.1 _ (inductionHypothesis plains.2 specs.2)

/-- A text has a reference or none. -/
theorem exists_reference_of_not_unreferenced {input : List Char}
    (referenced : ¬ Unreferenced input) :
    ∃ literal spec rest, ¬ opener <:+: literal ∧ '}' ∉ spec ∧
      input = literal ++ opener ++ (spec ++ closer ++ rest) := by
  simp only [Unreferenced, not_forall, not_not] at referenced
  obtain ⟨before, after, same, closed⟩ := referenced
  have opened : opener <:+: input := ⟨before, after, same.symm⟩
  obtain ⟨literal, found⟩ := Option.isSome_iff_exists.mp (Markers.before?_isSome_iff.mpr opened)
  obtain ⟨rest, split, plain⟩ := opener_terminated.before?_eq_some_iff.mp found
  have early := (Markers.before?_eq_some_iff.mp found).2 before ⟨after, same.symm⟩
  have suffix : after <:+ rest := by
    refine List.suffix_of_suffix_length_le ⟨_, same.symm⟩ ⟨_, split.symm⟩ ?_
    have lengths := congrArg List.length (same.symm.trans split)
    simp only [List.length_append] at lengths
    omega
  have brace : closer <:+: rest := List.infix_iff_prefix_suffix.mpr ?_
  · obtain ⟨spec, foundSpec⟩ :=
      Option.isSome_iff_exists.mp (Markers.before?_isSome_iff.mpr brace)
    obtain ⟨more, whole, unclosed⟩ := Markers.before?_singleton_eq_some_iff.mp foundSpec
    refine ⟨literal, spec, more, plain, unclosed, ?_⟩
    rw [split, whole, List.append_assoc spec]
    rfl
  · obtain ⟨front, back, cut⟩ := List.append_of_mem (suffix.subset closed)
    exact ⟨closer ++ back, ⟨back, rfl⟩, ⟨front, cut.symm⟩⟩

/-- Every text has a reading. -/
theorem exists_text_eq (input : List Char) : ∃ reading : Reading, reading.text = input := by
  by_cases plain : Unreferenced input
  · exact ⟨⟨[], input, List.forall_mem_nil _, List.forall_mem_nil _, plain⟩, rfl⟩
  · obtain ⟨literal, spec, rest, plainLiteral, unclosed, same⟩ :=
      exists_reference_of_not_unreferenced plain
    obtain ⟨reading, read⟩ := exists_text_eq rest
    refine ⟨cons literal spec plainLiteral unclosed reading, ?_⟩
    rw [same, ← read]
    rfl
termination_by input.length
decreasing_by
  rw [same]
  simp only [List.length_append, opener, closer, List.length_cons, List.length_nil]
  omega

/-- A text has one reading at most. -/
theorem text_injective : Function.Injective text := by
  intro first second same
  induction first using Reading.induction generalizing second with
  | unreferenced tail plain =>
    induction second using Reading.induction with
    | unreferenced other _ => exact Reading.ext rfl same
    | reference literal spec _ _ rest _ =>
      refine absurd ?_ (plain literal (spec ++ closer ++ rest.text) same)
      exact List.mem_append_left _ (List.mem_append_right _ List.mem_cons_self)
  | reference literal spec plain unclosed rest inductionHypothesis =>
    induction second using Reading.induction with
    | unreferenced other plainOther =>
      refine absurd ?_ (plainOther literal (spec ++ closer ++ rest.text) same.symm)
      exact List.mem_append_left _ (List.mem_append_right _ List.mem_cons_self)
    | reference otherLiteral otherSpec otherPlain otherUnclosed otherRest _ =>
      obtain ⟨rfl, behind⟩ := opener_terminated.append_inj plain otherPlain same
      obtain ⟨rfl, rests⟩ := closer_terminated.append_inj
        (closer_terminated.absent unclosed) (closer_terminated.absent otherUnclosed) behind
      obtain rfl : rest = otherRest := inductionHypothesis rests
      rfl

end Reading

/-! ### Expanding a reading -/

section Expanded

variable (env : Environment)

/-- A text without references is copied. -/
theorem expandLoop_unreferenced (out : List Char) {rest : List Char}
    (unreferenced : Unreferenced rest) : expandLoop env out rest = out ++ rest := by
  by_cases opened : opener <:+: rest
  · obtain ⟨literal, after, same, plain⟩ := opener_terminated.exists_split opened
    have later : Unreferenced after := by
      intro before behind split
      refine unreferenced (literal ++ opener ++ before) behind ?_
      rw [same, split]
      simp only [List.append_assoc]
    have unclosed := unreferenced literal after same
    rw [same, expandLoop_unclosed env out plain unclosed, expandLoop_unreferenced _ later]
    simp only [List.append_assoc]
  · exact expandLoop_plain env out opened
termination_by rest.length
decreasing_by
  rw [same]
  simp only [List.length_append, opener, List.length_cons, List.length_nil]
  omega

/-- The references of a reading are replaced by their values, whatever these contain. -/
theorem expandLoop_text (reading : Reading) (out : List Char) :
    expandLoop env out reading.text = out ++ reading.expanded env := by
  induction reading using Reading.induction generalizing out with
  | unreferenced tail unreferenced => exact expandLoop_unreferenced env out unreferenced
  | reference literal spec plain unclosed rest inductionHypothesis =>
    show expandLoop env out (literal ++ opener ++ (spec ++ closer ++ rest.text)) = _
    rw [expandLoop_reference env out plain unclosed, inductionHypothesis]
    simp only [Reading.expanded, Reading.cons, List.flatMap_cons, List.append_assoc]

/-- What was put out is not looked at again. -/
theorem expandLoop_out (out rest : List Char) :
    expandLoop env out rest = out ++ expandEnvVars env rest := by
  obtain ⟨reading, rfl⟩ := Reading.exists_text_eq rest
  rw [expandEnvVars, expandLoop_text, expandLoop_text, List.nil_append]

theorem referenceValue_plain {spec : List Char} (plain : ¬ separator <:+: spec) :
    referenceValue env spec = (env.get? spec).getD [] := by
  rw [referenceValue, Markers.before?_eq_none_iff.mpr plain]
  dsimp only
  rw [Option.or_none]

theorem referenceValue_default {name default : List Char} (plain : ¬ separator <:+: name) :
    referenceValue env (name ++ separator ++ default) = (env.get? name).getD default := by
  have behind : (name ++ separator ++ default).drop (name.length + 2) = default :=
    List.drop_left' (by rw [List.length_append]; rfl)
  rw [referenceValue, separator_terminated.before?_eq_some_iff.mpr ⟨default, rfl, plain⟩]
  dsimp only
  rw [behind]
  cases env.get? name with
  | none => rfl
  | some value => rfl

/-- A reference names a variable, with a default behind the first separator or without one. -/
theorem referenceValue_cases (spec : List Char) :
    (¬ separator <:+: spec ∧ referenceValue env spec = (env.get? spec).getD []) ∨
      ∃ name default, spec = name ++ separator ++ default ∧ ¬ separator <:+: name ∧
        referenceValue env spec = (env.get? name).getD default := by
  by_cases separated : separator <:+: spec
  · obtain ⟨name, default, rfl, plain⟩ := separator_terminated.exists_split separated
    exact Or.inr ⟨name, default, rfl, plain, referenceValue_default env plain⟩
  · exact Or.inl ⟨separated, referenceValue_plain env separated⟩

end Expanded

/-! ### Texts one after the other -/

/-- Every opener of a text has a closing brace behind it. -/
def Closed (text : List Char) : Prop :=
  ∀ before after, text = before ++ opener ++ after → '}' ∈ after

/-- An opener does not come about between a text that does not end in `$` and the next. -/
theorem opener_not_infix_append {text more : List Char} (plain : ¬ opener <:+: text)
    (ends : ∀ front, text ≠ front ++ ['$']) (plainMore : ¬ opener <:+: more) :
    ¬ opener <:+: text ++ more := by
  rintro ⟨before, after, same⟩
  rcases List.append_eq_append_iff.mp same with ⟨rest, whole, _⟩ | ⟨rest, whole, split⟩
  · exact plain ⟨before, rest, whole.symm⟩
  · rcases List.append_eq_append_iff.mp whole with ⟨cut, front, back⟩ | ⟨cut, _, back⟩
    · rcases cut with _ | ⟨dollar, _ | ⟨brace, more⟩⟩
      · refine plainMore ⟨[], after, ?_⟩
        rw [split, back]
        rfl
      · obtain ⟨rfl, _⟩ := List.cons.inj back
        exact ends before front
      · obtain ⟨rfl, tail⟩ := List.cons.inj back
        obtain ⟨rfl, _⟩ := List.cons.inj tail
        refine plain ⟨before, more, ?_⟩
        rw [front, List.append_assoc]
        rfl
    · refine plainMore ⟨cut, after, ?_⟩
      rw [split, back]

section Appended

variable (env : Environment)

/-- A literal in front of a text stays in front of it. -/
theorem expandLoop_literal_append (out : List Char) {literal more : List Char}
    (plain : ¬ opener <:+: literal) (ends : ∀ front, literal ≠ front ++ ['$']) :
    expandLoop env out (literal ++ more) = expandLoop env (out ++ literal) more := by
  by_cases opened : opener <:+: more
  · obtain ⟨next, after, same, plainNext⟩ := opener_terminated.exists_split opened
    have joined : literal ++ more = literal ++ next ++ opener ++ after := by
      rw [same]
      simp only [List.append_assoc]
    rw [joined, same, expandLoop_opened env out (opener_not_infix_append plain ends plainNext),
      expandLoop_opened env (out ++ literal) plainNext, List.append_assoc out literal next]
  · rw [expandLoop_plain env out (opener_not_infix_append plain ends opened),
      expandLoop_plain env (out ++ literal) opened, List.append_assoc]

theorem Reading.exists_front (reading : Reading) :
    ∃ front, reading.text = front ++ reading.tail := by
  induction reading using Reading.induction with
  | unreferenced tail _ => exact ⟨[], rfl⟩
  | reference literal spec plain unclosed rest inductionHypothesis =>
    obtain ⟨front, same⟩ := inductionHypothesis
    refine ⟨literal ++ opener ++ (spec ++ closer ++ front), ?_⟩
    show literal ++ opener ++ (spec ++ closer ++ rest.text) = _ ++ rest.tail
    rw [same]
    simp only [List.append_assoc]

/-- Where every opener is closed, nothing is left open behind the last reference. -/
theorem Reading.tail_plain {reading : Reading} (closed : Closed reading.text) :
    ¬ opener <:+: reading.tail := by
  rintro ⟨before, after, same⟩
  obtain ⟨front, whole⟩ := reading.exists_front
  refine reading.tail_unreferenced before after same.symm (closed (front ++ before) after ?_)
  rw [whole, ← same]
  simp only [List.append_assoc]

/-- The references of a text are expanded in front of whatever follows it. -/
theorem expandLoop_text_append (reading : Reading) (out more : List Char) :
    expandLoop env out (reading.text ++ more) = expandLoop env
      (out ++ reading.references.flatMap fun reference =>
        reference.1 ++ referenceValue env reference.2) (reading.tail ++ more) := by
  induction reading using Reading.induction generalizing out with
  | unreferenced tail _ =>
    show expandLoop env out (tail ++ more) = expandLoop env (out ++ []) (tail ++ more)
    rw [List.append_nil]
  | reference literal spec plain unclosed rest inductionHypothesis =>
    have joined : (Reading.cons literal spec plain unclosed rest).text ++ more =
        literal ++ opener ++ (spec ++ closer ++ (rest.text ++ more)) := by
      show literal ++ opener ++ (spec ++ closer ++ rest.text) ++ more = _
      simp only [List.append_assoc]
    rw [joined, expandLoop_reference env out plain unclosed, inductionHypothesis]
    simp only [Reading.cons, List.flatMap_cons, List.append_assoc]

/-- The expansion of a configuration text, for every environment: the text is cut into literals
and references in exactly one way, and the references are replaced by their values, which are
not scanned again; from the first opener that is not closed the text is copied. -/
theorem text_expanded_once (input : List Char) :
    (∃! reading : Reading, reading.text = input) ∧
    (∀ reading : Reading, reading.text = input →
      expandEnvVars env input = reading.expanded env) ∧
    (∀ spec, (¬ separator <:+: spec ∧ referenceValue env spec = (env.get? spec).getD []) ∨
      ∃ name default, spec = name ++ separator ++ default ∧ ¬ separator <:+: name ∧
        referenceValue env spec = (env.get? name).getD default) ∧
    (∀ front after, input = front ++ opener ++ after → Closed front → '}' ∉ after →
      expandEnvVars env input = expandEnvVars env front ++ opener ++ after) ∧
    (¬ opener <:+: input → expandEnvVars env input = input) ∧
    (Closed input → (∀ front, input ≠ front ++ ['$']) → ∀ more,
      expandEnvVars env (input ++ more) = expandEnvVars env input ++ expandEnvVars env more) := by
  refine ⟨?_, ?_, referenceValue_cases env, ?_, ?_, ?_⟩
  · obtain ⟨reading, read⟩ := Reading.exists_text_eq input
    exact ⟨reading, read, fun other same => Reading.text_injective (same.trans read.symm)⟩
  · rintro reading rfl
    exact expandLoop_text env reading []
  · rintro front after rfl closed unclosed
    obtain ⟨reading, rfl⟩ := Reading.exists_text_eq front
    have plain := Reading.tail_plain closed
    have unreferenced : Unreferenced after := by
      intro before behind same member
      refine unclosed ?_
      rw [same]
      exact List.mem_append_right _ member
    rw [expandEnvVars, expandEnvVars, expandLoop_text, List.append_assoc, expandLoop_text_append,
      ← List.append_assoc, expandLoop_unclosed env _ plain unclosed,
      expandLoop_unreferenced env _ unreferenced]
    simp only [Reading.expanded, List.append_assoc]
  · exact fun plain => expandLoop_plain env [] plain
  · intro closed ends more
    obtain ⟨reading, rfl⟩ := Reading.exists_text_eq input
    obtain ⟨front, whole⟩ := reading.exists_front
    have tailEnds : ∀ before, reading.tail ≠ before ++ ['$'] := by
      intro before same
      refine ends (front ++ before) ?_
      rw [whole, same, List.append_assoc]
    rw [expandEnvVars, expandEnvVars, expandLoop_text, expandLoop_text_append,
      expandLoop_literal_append env _ (Reading.tail_plain closed) tailEnds, expandLoop_out]
    rfl

end Appended

end SiphonSmpp
