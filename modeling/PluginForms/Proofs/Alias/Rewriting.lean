import PluginForms.Proofs.Provider.Agreement
import PluginForms.Proofs.Selector.Faults
import PluginForms.Proofs.Url.Lawful

/-!
What the parameters of a selector are under another name. The reader of parameters starts behind
the name and knows nothing of what it has behind it, so two selectors with one list are read by
one run. Only when the run is refused does the name come in again, in the text of the error and in
the position, which is counted from the start of the text.

Behind aliases a selector gets another name, unless its own abbreviates a selector: then it is
replaced as a whole, and what is read is the list of the other selector.
-/

namespace PluginForms

variable {K : Kind}

/-- The second error says of `text'` from `start'` on what the first one says of `text` from
`start` on. A name that is too long is reported as it is, and stands in the part that is read. -/
inductive PluginError.Moved (text text' : Text) (start start' : Nat) :
    PluginError → PluginError → Prop
  | character {c : Char} {position : Nat} :
      Moved text text' start start' (.invalidCharacter text c (start + position))
        (.invalidCharacter text' c (start' + position))
  | nesting {position : Nat} :
      Moved text text' start start' (.nestingTooDeep text (start + position))
        (.nestingTooDeep text' (start' + position))
  | endOfText {expected : Expected} :
      Moved text text' start start' (.endOfText text expected) (.endOfText text' expected)
  | length {name : Text} (hname : name <:+: text.drop start) (hlong : nameLimit < name.length) :
      Moved text text' start start' (.invalidLength name) (.invalidLength name)

/-! ### Refusals -/

/-- A refusal for a name is for one that is too long and stands in the text. -/
def Refusal.NamesIn (t : Text) (r : Refusal) : Prop :=
  ∀ e, r = .name e → ∃ name, e = .invalidLength name ∧ name <:+: t ∧ nameLimit < name.length

theorem Refusal.NamesIn.mono {t u : Text} {r : Refusal} (h : r.NamesIn t) (htu : t <:+: u) :
    r.NamesIn u := by
  intro e he
  obtain ⟨name, hlength, hname, hlong⟩ := h e he
  exact ⟨name, hlength, hname.trans htu, hlong⟩

/-- A refusal counts from the end of the text, so what stands before the list moves it. -/
theorem Refusal.moved (head head' : Text) {list rest : Text} {r : Refusal}
    (hrest : rest <:+ list) (hname : r.NamesIn list) :
    PluginError.Moved (head ++ list) (head' ++ list) head.length head'.length
      (r.error (head ++ list) rest) (r.error (head' ++ list) rest) := by
  have hposition : ∀ before : Text, (before ++ list).length - rest.length =
      before.length + (list.length - rest.length) := by
    intro before
    rw [List.length_append, Nat.add_sub_assoc hrest.length_le]
  cases r with
  | character =>
      cases rest with
      | nil => exact .endOfText
      | cons c rest =>
          rw [error, error, PluginError.atRest, PluginError.atRest, hposition, hposition]
          exact .character
  | nesting =>
      rw [error, error, hposition, hposition]
      exact .nesting
  | endOfText expected => exact .endOfText
  | name e =>
      obtain ⟨name, rfl, hinfix, hlong⟩ := hname e rfl
      refine .length ?_ hlong
      rwa [List.drop_left]

namespace ReadState

variable {s : ReadState K} {r : Refusal} {t rest chars : Text} {waiting : List (Frame K)}
  {items : List (Expression K)}

theorem namesIn_of_placed (hplaced : Placed t (.inside waiting items (.name chars)))
    (hname : isName chars = false) : Refusal.NamesIn t (.name (nameFault chars)) := by
  intro e he
  obtain ⟨before, rfl, -, hshaped⟩ := hplaced
  obtain rfl := Refusal.name.inj he
  exact ⟨chars, hshaped.nameFault_eq hname, List.suffix_append before chars |>.isInfix,
    hshaped.nameLimit_lt hname⟩

theorem namesIn_of_run (h : (before : ReadState K).run t = .error (r, rest)) :
    rest <:+ t ∧ r.NamesIn t := by
  obtain ⟨pre, c, post, s, rfl, rfl, hrun, hstep⟩ := run_error h
  refine ⟨List.suffix_append pre _, ?_⟩
  have hreads : Reads pre s := reads_before.run hrun
  cases error_step hstep with
  | character hlive => exact nofun
  | nesting hopen hlive houtside hfull => exact nofun
  | name hend hname =>
      exact (namesIn_of_placed hreads.placed hname).mono (List.prefix_append pre _).isInfix

theorem namesIn_of_finish (hrun : before.run t = .ok s) (h : s.finish = .error r) :
    r.NamesIn t := by
  have hreads : Reads t s := reads_before.run hrun
  cases error_finish h with
  | endOfText hlive => exact nofun
  | name hname => exact namesIn_of_placed hreads.placed hname

end ReadState

/-! ### Names before the list -/

namespace Selector

/-- The two selectors have the same parameters, or none for the same fault. -/
inductive ReadAlike (x y : Selector K) : Prop
  | ok {es : List (Expression K)} (hx : x.parameters = .ok es) (hy : y.parameters = .ok es)
  | error {e e' : PluginError} (hx : x.parameters = .error e) (hy : y.parameters = .error e')
      (hmoved : PluginError.Moved x.text y.text x.name.chars.length y.name.chars.length e e')

/-! The reader of parameters sees the list only. -/

theorem parameters_of_refused {x : Selector K} {r : Refusal} {rest : Text}
    (h : (ReadState.before : ReadState K).run x.list = .error (r, rest)) :
    x.parameters = .error (r.error x.text rest) := by
  rw [parameters, readParameters, text, List.drop_left, h]

theorem parameters_of_run {x : Selector K} {s : ReadState K}
    (h : ReadState.before.run x.list = .ok s) :
    x.parameters = s.finish.mapError (·.error x.text []) := by
  rw [parameters, readParameters, text, List.drop_left, h]

theorem readAlike_of_list {x y : Selector K} (h : y.list = x.list) : x.ReadAlike y := by
  have hmoved : ∀ {r : Refusal} {rest : Text}, rest <:+ x.list → r.NamesIn x.list →
      PluginError.Moved x.text y.text x.name.chars.length y.name.chars.length
        (r.error x.text rest) (r.error y.text rest) := by
    intro r rest hrest hname
    rw [text, text, h]
    exact Refusal.moved x.name.chars y.name.chars hrest hname
  cases hrun : (ReadState.before : ReadState K).run x.list with
  | error refused =>
      obtain ⟨r, rest⟩ := refused
      obtain ⟨hrest, hname⟩ := ReadState.namesIn_of_run hrun
      refine .error (parameters_of_refused hrun) (parameters_of_refused ?_) (hmoved hrest hname)
      rw [h, hrun]
  | ok s =>
      have hx := parameters_of_run hrun
      have hy := parameters_of_run (x := y) (by rw [h, hrun])
      cases hfinish : s.finish with
      | ok es =>
          rw [hfinish] at hx hy
          exact .ok hx hy
      | error r =>
          rw [hfinish] at hx hy
          exact .error hx hy (hmoved List.nil_suffix (ReadState.namesIn_of_finish hrun hfinish))

end Selector

/-- Under another name a selector has the same parameters, and where it has none the same error
about the text that it then is. So a set of aliases that gives a selector another name leaves its
parameters alone; a name that abbreviates a selector is no such case: it is replaced together with
its parameters, and it must not have any. -/
theorem parameters_are_read_under_any_name :
    (∀ (x : Selector K) (n : Name K), x.ReadAlike (x.rename n)) ∧
    ∀ (aliases : AliasSet K) (x y : Selector K), aliases.unalias x = .ok y →
      (aliases.expansion? x.name = none → x.ReadAlike y) ∧
      ∀ z, aliases.expansion? x.name = some z → x.parameters = .ok [] ∧ y = z := by
  refine ⟨fun x n => Selector.readAlike_of_list rfl, fun aliases x y h => ⟨fun hnone => ?_, ?_⟩⟩
  · cases hbehind : aliases.behind? x.name with
    | some n =>
        rw [Provider.unalias_of_behind hnone hbehind] at h
        obtain rfl := Except.ok.inj h
        exact Selector.readAlike_of_list rfl
    | none =>
        rw [Provider.unalias_of_hidden hnone hbehind] at h
        contradiction
  · exact fun z hz => (Provider.unalias_iff_of_expansion hz).mp h

namespace BrokenSample

def kind : Kind := ⟨"counter".toList, []⟩

def mean : Name kind := ⟨"mean".toList, by decide⟩

def add : Name kind := ⟨"add".toList, by decide⟩

def plus : Name kind := ⟨"plus".toList, by decide⟩

/-- No list is wrong until it is read. -/
def broken : Selector kind := ⟨add, "($)".toList, by decide⟩

/-- The same selector, the first time by what abbreviates it, the second time by its name. -/
def aliases : AliasSet kind where
  aliases := [.standsFor mean broken none, .standsFor plus (.bare add) none]
  increasing := by
    rw [Sorted.Increasing]
    decide
  unshadowed := by decide

theorem parameters_broken :
    broken.parameters = .error (.invalidCharacter "add($)".toList '$' 4) := rfl

end BrokenSample

open BrokenSample in
theorem parameters_are_read_under_any_name_behind_aliases :
    aliases.unalias (broken.rename plus) = .ok broken ∧
    (broken.rename plus).parameters = .error (.invalidCharacter "plus($)".toList '$' 5) ∧
    (broken.rename plus).ReadAlike broken := by
  obtain ⟨-, hrewritten⟩ := parameters_are_read_under_any_name (K := kind)
  exact ⟨rfl, rfl, (hrewritten aliases (broken.rename plus) broken rfl).1 rfl⟩

open BrokenSample in
/-- The parameters change with a name that abbreviates a selector, and may be wrong then. -/
theorem abbreviation_brings_its_own_parameters :
    AliasSet.ofText Url.verbatim "mean add($), plus add".toList = .ok aliases ∧
    aliases.unalias (.bare mean) = .ok broken ∧
    (Selector.bare mean).parameters = .ok [] ∧
    broken.parameters = .error (.invalidCharacter "add($)".toList '$' 4) ∧
    ¬ (Selector.bare mean).ReadAlike broken := by
  have hbare : (Selector.bare mean).parameters = .ok [] := rfl
  refine ⟨by decide, rfl, hbare, parameters_broken, fun halike => ?_⟩
  cases halike with
  | ok hx hy =>
      rw [parameters_broken] at hy
      contradiction
  | error hx =>
      rw [hbare] at hx
      contradiction

end PluginForms
