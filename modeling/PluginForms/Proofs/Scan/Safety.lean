import PluginForms.Proofs.Scan.Depth
import PluginForms.Proofs.Scan.Entry
import PluginForms.Proofs.Scan.Tracking
import PluginForms.Proofs.Url.Lawful

/-!
The scanners of parameter lists and of aliases are safe on every text. They give the answers of
the readers, and so they do not stop for any other reason than the reader has: they take nothing
from 0, cut no part of the text that is not one, run into no branch that is there for what cannot
be, and come to an end.
-/

namespace PluginForms.Scan

/-- Wherever in a text the scanner of parameters begins, it gives what the reader gives, is never
before that place or behind the end of the text, and never has more lists open than may be. A
list that it has read is closed again. The scanner of aliases gives what their reader gives and is
never behind the end of the text. Both stop for errors of their readers only: never because there
is nothing to take one from or no such part of the text, and never in a branch for what cannot
be. -/
theorem scanners_stay_in_their_text (K : Kind) (t : Text) :
    (∀ start ≤ t.length, ∃ trail : Trail,
      (parameters t : Scan (List (Expression K))).outcome ⟨⟨start, 0⟩, []⟩ =
        ((readParameters t start).mapError .refused, trail) ∧
      ∀ c ∈ trail.visited,
        start ≤ c.position ∧ c.position ≤ t.length ∧ c.depth ≤ nestingLimit) ∧
    (∀ levels (s s' : Trail) (es : List (Expression K)), (list t levels).outcome s = (.ok es, s') →
      s'.cursor.depth = s.cursor.depth) ∧
    ∀ urls : Url.Reader, ∃ trail : Trail,
      (Entry.entry urls t : Scan (Alias K)).outcome ⟨⟨0, 0⟩, []⟩ =
        ((Alias.ofText urls t).mapError .refused, trail) ∧
      ∀ c ∈ trail.visited, c.position ≤ t.length := by
  refine ⟨fun start hstart => ?_, fun levels s s' es => ?_, fun urls => ?_⟩
  · have hgives : Gives t start ⟨start, 0⟩ (parameters t : Scan (List (Expression K)))
        (readParameters t start) :=
      gives_parameters ⟨hstart, rfl⟩ rfl
    have hbegin : Within t start ⟨start, 0⟩ := ⟨Nat.le_refl start, hstart, Nat.zero_le _⟩
    obtain ⟨trail, hrun, hvisited⟩ := hgives.outcome_eq hbegin
    refine ⟨trail, hrun, fun c hc => ?_⟩
    obtain ⟨hfirst, hlast, hdepth⟩ := hvisited c hc
    exact ⟨hfirst, hlast, hdepth⟩
  · exact keepsDepth_list t levels s es s'
  · have hbegin : Within t 0 ⟨0, 0⟩ := ⟨Nat.le_refl 0, Nat.zero_le _, Nat.zero_le _⟩
    obtain ⟨trail, hrun, hvisited⟩ := (Entry.gives_entry urls t).outcome_eq hbegin
    exact ⟨trail, hrun, fun c hc => (hvisited c hc).le_length⟩

namespace ScannedSample

def kind : Kind := ⟨"counter".toList, []⟩

def relay : Name kind := ⟨"relay".toList, by decide⟩

def batch : Name kind := ⟨"batch".toList, by decide⟩

def gauge : Name kind := ⟨"gauge".toList, by decide⟩

/-- White space after a name, once before a list and once before the end of one. -/
def text : Text := "batch (gauge ( -1.50), \"\\\")\", gauge )".toList

def selector : Selector kind := ⟨batch, text.drop 5, by decide⟩

/-- The list that begins behind character 13. -/
def inner : List (Expression kind) := [.number (.ofLiteral "-1.50".toList)]

def outer : List (Expression kind) := [.call gauge inner, .string "\")".toList, .call gauge []]

def page : ListedUrl := ⟨⟨"urn:c".toList⟩, by decide⟩

def written : Text := " relay\t".toList ++ text ++ " urn:c ".toList

end ScannedSample

open ScannedSample in
theorem scanners_stay_in_their_text_in_sample :
    (∃ trail : Trail, (parameters text).outcome ⟨⟨5, 0⟩, []⟩ = (.ok outer, trail) ∧
      ∀ c ∈ trail.visited, 5 ≤ c.position ∧ c.position ≤ text.length ∧ c.depth ≤ nestingLimit) ∧
    (∃ s : Trail, (list text nestingLimit).outcome ⟨⟨14, 1⟩, []⟩ = (.ok inner, s) ∧
      s.cursor.depth = 1) ∧
    ∃ trail : Trail, (Entry.entry Url.verbatim written).outcome ⟨⟨0, 0⟩, []⟩ =
        (.ok (.standsFor relay selector (some page)), trail) ∧
      ∀ c ∈ trail.visited, c.position ≤ written.length := by
  obtain ⟨hparameters, hlists, -⟩ := scanners_stay_in_their_text kind text
  obtain ⟨-, -, hentry⟩ := scanners_stay_in_their_text kind written
  have hread : readParameters text 5 = .ok outer := rfl
  have hlist : ((list text nestingLimit).outcome ⟨⟨14, 1⟩, []⟩).1 = .ok inner := rfl
  have halias : Alias.ofText Url.verbatim written =
      .ok (.standsFor relay selector (some page)) := by decide +kernel
  refine ⟨?_, ?_, ?_⟩
  · obtain ⟨trail, hrun, hvisited⟩ := hparameters 5 (by decide)
    rw [hread] at hrun
    exact ⟨trail, hrun, hvisited⟩
  · generalize hrun : (list text nestingLimit).outcome ⟨⟨14, 1⟩, []⟩ = ran at hlist
    obtain ⟨r, s⟩ := ran
    obtain rfl : r = .ok inner := hlist
    exact ⟨s, rfl, hlists _ _ s _ hrun⟩
  · obtain ⟨trail, hrun, hvisited⟩ := hentry Url.verbatim
    rw [halias] at hrun
    exact ⟨trail, hrun, hvisited⟩

end PluginForms.Scan
