import PluginForms.Proofs.Alias.Application
import PluginForms.Proofs.Alias.Stability
import PluginForms.Proofs.Provider.Domain
import PluginForms.Proofs.Provider.Overlay

/-!
Plugins under other names, which aliases that rename them give and an overlay gives as
well. A provider behind such aliases passes names on, as an overlay does, only that it
selects in a way of its own; and both send each name to the same place. What they list and
what they answer follows from that.
-/

namespace PluginForms

variable {K : Kind} {ε α : Type} {pairs : List (Name K × Name K)}

/-! ### Through aliases -/

/-- The alias stands for the second name of the pair under the first one, and declares no url
of its own. -/
def Alias.Renames (a : Alias K) (pair : Name K × Name K) : Prop :=
  a.name = pair.1 ∧ a.target? = some pair.2 ∧ a.url? = none

namespace AliasSet

/-- The aliases rename the second name of each pair to the first, and do nothing else. -/
structure Renaming (s : AliasSet K) (pairs : List (Name K × Name K)) : Prop where
  outer : (pairs.map (·.1)).Nodup
  renamed : ∀ pair ∈ pairs, ∃ a ∈ s.aliases, a.Renames pair
  renames : ∀ a ∈ s.aliases, ∃ pair ∈ pairs, a.Renames pair

theorem renaming_of_ofAliases {as : List (Alias K)} {s : AliasSet K}
    (has : List.Forall₂ Alias.Renames as pairs) (h : ofAliases as = .ok s) : s.Renaming pairs := by
  obtain ⟨hnames, hmem⟩ := mem_of_ofAliases h
  have houter : as.map (·.name) = pairs.map (·.1) := by
    rw [← List.forall₂_eq_eq_eq, List.forall₂_map_left_iff, List.forall₂_map_right_iff]
    exact has.imp fun _ _ h => h.1
  refine ⟨houter ▸ hnames, fun pair hpair => ?_, fun a ha => ?_⟩
  · obtain ⟨a, hzip, hrenames⟩ := exists_mem_zip has.flip hpair
    exact ⟨a, (hmem a).mpr (List.of_mem_zip hzip).2, hrenames⟩
  · obtain ⟨pair, hzip, hrenames⟩ := exists_mem_zip has ((hmem a).mp ha)
    exact ⟨pair, (List.of_mem_zip hzip).2, hrenames⟩

namespace Renaming

variable {s : AliasSet K} {m : NameMapping K} {c d : Catalog K} {n inner : Name K}

theorem expansion?_eq_none (h : s.Renaming pairs) (n : Name K) : s.expansion? n = none := by
  rw [expansion?, Option.bind_eq_none_iff]
  intro a hfind
  obtain ⟨_, -, -, htarget, -⟩ := h.renames a (find?_mem hfind).1
  exact Alias.expansion?_of_target? htarget

theorem keepsUrls (h : s.Renaming pairs) : s.KeepsUrls := by
  intro a ha
  obtain ⟨-, -, -, -, hurl⟩ := h.renames a ha
  exact hurl

theorem mem_targets_iff (h : s.Renaming pairs) :
    n ∈ Alias.targets s.aliases ↔ n ∈ pairs.map (·.2) := by
  rw [Alias.mem_targets_iff, List.mem_map]
  constructor
  · rintro ⟨a, ha, htarget⟩
    obtain ⟨pair, hpair, -, hinner, -⟩ := h.renames a ha
    exact ⟨pair, hpair, Option.some.inj (hinner.symm.trans htarget)⟩
  · rintro ⟨pair, hpair, rfl⟩
    obtain ⟨a, ha, -, htarget, -⟩ := h.renamed pair hpair
    exact ⟨a, ha, htarget⟩

theorem behind?_of_inner? (h : s.Renaming m.pairs) (hinner : m.inner? n = some inner) :
    s.behind? n = some inner := by
  obtain ⟨a, ha, rfl, htarget, -⟩ := h.renamed _ (NameMapping.mem_of_inner? hinner)
  rw [behind?, find?_of_mem ha]
  exact (if_neg (Bool.eq_false_iff.mp (Alias.not_plain_of_target? htarget))).trans htarget

theorem behind?_of_inner?_none (h : s.Renaming m.pairs) (hinner : m.inner? n = none) :
    s.behind? n = if m.isInner n then none else some n := by
  have hfind : s.find? n = none := by
    refine Option.eq_none_iff_forall_ne_some.mpr fun a hfind => ?_
    obtain ⟨ha, rfl⟩ := find?_mem hfind
    obtain ⟨pair, hpair, hname, -⟩ := h.renames a ha
    have hne := List.lookup_eq_none_iff.mp hinner pair hpair
    rw [hname, bne_self_eq_false] at hne
    contradiction
  have htargets : (Alias.targets s.aliases).contains n = m.isInner n := by
    rw [Bool.eq_iff_iff, List.contains_iff_mem, h.mem_targets_iff, NameMapping.isInner_iff]
  rw [behind?, hfind, ← htargets]

/-- The catalog that the aliases are applied to has the inner names. -/
theorem contains_inner (h : s.Renaming pairs) (happly : s.apply c = .ok d) :
    ∀ n ∈ pairs.map (·.2), c.contains n = true := by
  intro n hn
  obtain ⟨a, ha, htarget⟩ := Alias.mem_targets_iff.mp (h.mem_targets_iff.mpr hn)
  rcases ok_apply happly with ⟨hempty, -⟩ | ⟨hdeclared, -⟩
  · rw [hempty] at ha
    contradiction
  · exact Alias.refersTo_of_target? htarget ▸ hdeclared a ha

/-- What is behind a name, as far as the catalog has it, is where the overlay sends it. -/
theorem filter_behind?_eq (h : s.Renaming m.pairs) (happly : s.apply c = .ok d) :
    (s.behind? n).filter c.contains = m.route c n := by
  rw [NameMapping.route]
  cases hinner : m.inner? n with
  | some inner =>
      have hmem : inner ∈ m.pairs.map (·.2) :=
        List.mem_map_of_mem (NameMapping.mem_of_inner? hinner)
      rw [h.behind?_of_inner? hinner]
      exact if_pos (h.contains_inner happly inner hmem)
  | none =>
      rw [h.behind?_of_inner?_none hinner]
      cases m.isInner n with
      | true => rfl
      | false => rfl

end Renaming

end AliasSet

namespace Provider

variable {urls : Url.Reader} {rows : List (TableRow K ε α)} {sets : List (AliasSet K)}
  {p q : Provider K ε α} {aliases : AliasSet K}

/-- A provider behind aliases that only rename passes names on to those behind them, as long as
its selectors are evaluated. -/
theorem relists_of_withAliases (hp : Composed urls rows sets p)
    (hexpansion : ∀ n, aliases.expansion? n = none) (hurls : aliases.KeepsUrls)
    (h : p.withAliases aliases = .ok q) :
    Relists p (ofResolver q.infos q.plugin)
      fun n => (aliases.behind? n).filter p.infos.contains := by
  obtain ⟨hinfos, hplugin, -⟩ := ok_withAliases h
  refine ⟨⟨fun n values => ?plugin, rfl, fun n => ?contains, fun n m hroute => ?target⟩,
    fun n m l hroute hl => ?listing⟩
  case plugin =>
    change q.plugin n values = _
    rw [hplugin]
    cases hbehind : aliases.behind? n with
    | none => exact aliasedPlugin_of_hidden (hexpansion n) hbehind
    | some m =>
        rw [aliasedPlugin_of_behind (hexpansion n) hbehind]
        rcases hp.truthful m with ⟨hmissing, hunknown⟩ | ⟨hcontains, -⟩
        · -- only a name that no alias mentions is behind itself without being listed
          obtain rfl : m = n := by
            refine (AliasSet.behind?_eq_or_contains hinfos hbehind).resolve_right ?_
            exact Bool.eq_false_iff.mp hmissing
          rw [Option.filter_some_neg hmissing, hunknown]
        · rw [Option.filter_some_pos hcontains]
  case contains =>
    have hshows : q.infos.contains n = true ↔ aliases.Shows p.infos n :=
      AliasSet.contains_apply hinfos
    rw [AliasSet.Shows, hexpansion n] at hshows
    change q.infos.contains n = _
    rw [Bool.eq_iff_iff, hshows, Option.isSome_filter, Option.any_eq_true]
    simp
  case target => exact (Option.filter_eq_some_iff.mp hroute).2
  case listing =>
    have hbehind := (Option.filter_eq_some_iff.mp hroute).1
    have hfound := AliasSet.find?_apply_of_behind hinfos hbehind hl
    rw [hurls.ownUrl?_eq_none n] at hfound
    exact hfound

/-- Renaming plugins through aliases and through an overlay is the same. If the aliases that
give each inner name its outer one can be put in front of a provider, then the outer names can
be laid over it; both list the same, answer every name with any values in the same way, by the
same steps and with the same errors, and select the same plugins by the same steps. -/
theorem aliases_rename_as_overlays (hp : Composed urls rows sets p)
    (hinner : (pairs.map (·.2)).Nodup) {as : List (Alias K)}
    (has : List.Forall₂ Alias.Renames as pairs) (haliases : AliasSet.ofAliases as = .ok aliases)
    (hq : p.withAliases aliases = .ok q) :
    ∃ q', p.overlayByName pairs = .ok q' ∧ q'.infos = q.infos ∧ q'.plugin = q.plugin ∧
      ∀ s steps a, q'.select s = ⟨steps, .ok a⟩ ↔ q.select s = ⟨steps, .ok a⟩ := by
  have hrenaming := AliasSet.renaming_of_ofAliases has haliases
  obtain ⟨hinfos, -, -⟩ := ok_withAliases hq
  obtain ⟨m, hbyName, rfl⟩ :=
    NameMapping.exists_byName hrenaming.outer hinner (hrenaming.contains_inner hinfos)
  have hfits := NameMapping.fits_of_byName hbyName
  -- an outer name of the provider itself would be listed twice in front of the aliases
  have hfree : ∀ n, m.infos.contains n = true → p.infos.contains n = true →
      m.isInner n = true := by
    intro n houter hcontains
    rw [hfits.contains n] at houter
    obtain ⟨inner, hinner⟩ := Option.isSome_iff_exists.mp houter
    obtain ⟨a, ha, rfl, htarget, -⟩ := hrenaming.renamed _ (NameMapping.mem_of_inner? hinner)
    have hplain := Alias.not_plain_of_target? htarget
    rw [AliasSet.not_contains_of_not_plain hinfos ha hplain] at hcontains
    contradiction
  obtain ⟨q', hq'⟩ := exists_overlaid hfree
  have hoverlay := relists_of_overlaid hfits (NameMapping.keepsUrls_of_byName hbyName) hq'
  have haliased := relists_of_withAliases hp hrenaming.expansion?_eq_none hrenaming.keepsUrls hq
  have hroute : (fun n => (aliases.behind? n).filter p.infos.contains) = m.route p.infos :=
    funext fun n => hrenaming.filter_behind?_eq hinfos
  rw [hroute] at haliased
  obtain rfl := hoverlay.unique haliased
  exact ⟨_, ok_bind_iff.mpr ⟨m, hbyName, hq'⟩, rfl, rfl, fun s steps a =>
    (agrees_of_withAliases hq s steps a).symm⟩

namespace Sample

/-- The alias by which `a` becomes `c`. -/
def renamed : Alias kind := .standsFor c (.bare a) none

def nested : Selector kind := ⟨c, "(b)".toList, by decide⟩

/-- A table with the plugins `a` and `b`, behind the alias. -/
theorem exists_renamed : ∃ (p q : Provider kind Nat Nat) (aliases : AliasSet kind),
    Composed asWritten [row, other] [] p ∧ AliasSet.ofAliases [renamed] = .ok aliases ∧
    p.withAliases aliases = .ok q ∧ q.infos.names = [b, c] ∧ q.plugin a [] = unknown a ∧
    q.select nested = ⟨[10, 1], .ok 1⟩ :=
  ⟨_, _, _, .table (fun r hr => hr) rfl, rfl, rfl, by decide, rfl, rfl⟩

end Sample

open Sample in
/-- An overlay renames `a` in the same way, and passes `b` on. -/
theorem aliases_rename_as_overlays_of_table : ∃ p q : Provider kind Nat Nat,
    p.overlayByName [(c, a)] = .ok q ∧ q.infos.names = [b, c] ∧ q.plugin a [] = unknown a ∧
      q.select nested = ⟨[10, 1], .ok 1⟩ := by
  obtain ⟨p, q, aliases, hp, haliases, hq, hnames, hunknown, hselect⟩ := exists_renamed
  have hinner : (([(c, a)] : List (Name kind × Name kind)).map (·.2)).Nodup := by decide
  obtain ⟨q', hq', hinfos, hplugin, hsame⟩ :=
    aliases_rename_as_overlays hp hinner (.cons ⟨rfl, rfl, rfl⟩ .nil) haliases hq
  refine ⟨p, q', hq', ?_, ?_, (hsame nested _ _).mpr hselect⟩
  · rw [hinfos, hnames]
  · rw [hplugin, hunknown]

end Provider

end PluginForms
