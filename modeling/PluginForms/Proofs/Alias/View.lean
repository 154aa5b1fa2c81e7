import PluginForms.Alias.Set
import PluginForms.Proofs.Catalog.Lookup

/-!
Which names are seen through a set of aliases: those that abbreviate a selector, and
those behind which there is a name of the catalog. A set is only applied to a catalog
that has every name the aliases refer to, so each alias is itself among the names seen.
-/

namespace PluginForms

variable {K : Kind}

theorem Alias.mem_targets_iff {as : List (Alias K)} {n : Name K} :
    n ∈ targets as ↔ ∃ a ∈ as, a.target? = some n :=
  List.mem_filterMap

theorem Alias.refersTo_of_target? {a : Alias K} {n : Name K} (h : a.target? = some n) :
    a.refersTo = n := by
  match a with
  | .plain k => contradiction
  | .standsFor k x u =>
      rw [target?] at h
      split at h
      · contradiction
      · exact Option.some.inj h

theorem Alias.not_plain_of_target? {a : Alias K} {n : Name K} (h : a.target? = some n) :
    a.isPlain = false := by
  cases a with
  | plain k => contradiction
  | standsFor k x u => rfl

theorem Alias.expansion?_of_target? {a : Alias K} {n : Name K} (h : a.target? = some n) :
    a.expansion? = none := by
  cases a with
  | plain k => contradiction
  | standsFor k x u =>
      rw [target?] at h
      split at h
      · contradiction
      · rename_i hlist
        exact if_neg hlist

theorem Alias.refersTo_of_expansion? {a : Alias K} {x : Selector K} (h : a.expansion? = some x) :
    a.refersTo = x.name := by
  match a with
  | .plain k => contradiction
  | .standsFor k y u =>
      rw [expansion?] at h
      split at h
      · exact congrArg Selector.name (Option.some.inj h)
      · contradiction

namespace AliasSet

variable {s : AliasSet K} {c d : Catalog K} {n m : Name K} {a : Alias K}

theorem find?_mem (h : s.find? n = some a) : a ∈ s.aliases ∧ a.name = n := by
  have hname := List.find?_some h
  exact ⟨List.mem_of_find?_eq_some h, beq_iff_eq.mp hname⟩

theorem find?_of_mem (ha : a ∈ s.aliases) : s.find? a.name = some a := by
  cases hfind : s.find? a.name with
  | none =>
      have hne := List.find?_eq_none.mp hfind a ha
      rw [beq_iff_eq] at hne
      exact absurd rfl hne
  | some b =>
      obtain ⟨hb, hname⟩ := find?_mem hfind
      rw [s.increasing.eq_of_key_eq hb ha (congrArg Name.chars hname)]

/-- What stands for something is not renamed itself. -/
theorem name_not_mem_targets (ha : a ∈ s.aliases) (hplain : a.isPlain = false) :
    a.name ∉ Alias.targets s.aliases := by
  intro htarget
  have hshadowed : a ∈ s.aliases.filter (Alias.isShadowed s.aliases) := by
    refine List.mem_filter.mpr ⟨ha, ?_⟩
    rw [Alias.isShadowed, hplain, List.contains_iff_mem.mpr htarget]
    rfl
  rw [s.unshadowed] at hshadowed
  contradiction

theorem name_ne_of_find? (h : s.find? n = none) (ha : a ∈ s.aliases) : a.name ≠ n := by
  intro hname
  exact List.find?_eq_none.mp h a ha (beq_iff_eq.mpr hname)

/-- The catalog has every name that an alias refers to. -/
def Declared (s : AliasSet K) (c : Catalog K) : Prop :=
  ∀ a ∈ s.aliases, c.contains a.refersTo = true

/-- The name is seen when the catalog is seen through the aliases. -/
def Shows (s : AliasSet K) (c : Catalog K) (n : Name K) : Prop :=
  (s.expansion? n).isSome = true ∨ ∃ m, s.behind? n = some m ∧ c.contains m = true

theorem shows_of_find? (hdeclared : s.Declared c) (h : s.find? n = some a) : s.Shows c n := by
  obtain ⟨hmem, hname⟩ := find?_mem h
  have hrefers := hdeclared a hmem
  match a with
  | .plain k =>
      refine .inr ⟨n, ?_, hname ▸ hrefers⟩
      rw [behind?, h]
      rfl
  | .standsFor k x u =>
      cases hlist : x.hasList with
      | true => exact .inl (by simp [expansion?, h, Alias.expansion?, hlist])
      | false =>
          exact .inr ⟨x.name, by simp [behind?, h, Alias.isPlain, Alias.target?, hlist], hrefers⟩

theorem shows_iff_of_find? (h : s.find? n = none) :
    s.Shows c n ↔ n ∉ Alias.targets s.aliases ∧ c.contains n = true := by
  rw [Shows, expansion?, behind?, h]
  by_cases htarget : n ∈ Alias.targets s.aliases
  · simp [htarget]
  · simp [htarget]

/-- The url that the alias of that name declares. -/
def ownUrl? (s : AliasSet K) (n : Name K) : Option ListedUrl := (s.find? n).bind (·.url?)

theorem ownUrl?_of_find? (h : s.find? n = some a) : s.ownUrl? n = a.url? := by
  rw [ownUrl?, h]
  rfl

theorem ownUrl?_of_find?_none (h : s.find? n = none) : s.ownUrl? n = none := by
  rw [ownUrl?, h]
  rfl

/-- What is behind a name is the name itself, if it is visible, and then it has no url of
its own, or else what the alias of that name renames. -/
theorem behind?_cases (h : s.behind? n = some m) :
    (m = n ∧ s.ownUrl? n = none ∧
      (n ∉ Alias.targets s.aliases ∨ ∃ a, s.find? n = some a ∧ a.isPlain = true)) ∨
      ∃ a, s.find? n = some a ∧ a.target? = some m := by
  rw [behind?] at h
  cases hfind : s.find? n with
  | none =>
      simp only [hfind, List.contains_eq_mem, decide_eq_true_eq] at h
      split at h
      · contradiction
      · rename_i htarget
        exact .inl ⟨(Option.some.inj h).symm, ownUrl?_of_find?_none hfind, .inl htarget⟩
  | some a =>
      simp only [hfind] at h
      split at h
      · rename_i hplain
        have hurl : a.url? = none := by
          cases a with
          | plain k => rfl
          | standsFor k x u => contradiction
        refine .inl ⟨(Option.some.inj h).symm, ?_, .inr ⟨a, rfl, hplain⟩⟩
        rw [ownUrl?_of_find? hfind, hurl]
      · exact .inr ⟨a, rfl, h⟩

/-! ### The listings of a view -/

theorem mem_visible_iff {l l' : Listing K} :
    l' ∈ s.visible l ↔
      (l' = l ∧ (l.name ∉ Alias.targets s.aliases ∨
        ∃ a, s.find? l.name = some a ∧ a.isPlain = true)) ∨
      ∃ a ∈ s.aliases, a.target? = some l.name ∧ l' = ⟨a.name, a.url?.getD l.url⟩ := by
  have hempty : (s.aliases.filter fun a => a.target? == some l.name).isEmpty = true ↔
      l.name ∉ Alias.targets s.aliases := by
    rw [List.isEmpty_iff, List.filter_eq_nil_iff, Alias.mem_targets_iff]
    simp
  have hkept : ((s.find? l.name).any (·.isPlain)) = true ↔
      ∃ a, s.find? l.name = some a ∧ a.isPlain = true := by
    rw [Option.any_eq_true]
  rw [visible, List.mem_append, List.mem_map]
  refine or_congr ?_ ?_
  · rw [List.mem_ite_nil_right, List.mem_singleton, hempty, hkept]
    exact and_comm
  · simp only [List.mem_filter, beq_iff_eq, and_assoc]
    exact exists_congr fun a => and_congr_right fun _ => and_congr_right fun _ => eq_comm

theorem expanded?_name {l : Listing K} (h : expanded? c a = some l) : l.name = a.name := by
  obtain ⟨x, -, hx⟩ := Option.bind_eq_some_iff.mp h
  obtain ⟨u, -, rfl⟩ := Option.map_eq_some_iff.mp hx
  rfl

theorem exists_expanded? {x : Selector K} (h : a.expansion? = some x)
    (hx : c.contains x.name = true) : ∃ l, expanded? c a = some l := by
  obtain ⟨l, hl⟩ := Option.isSome_iff_exists.mp hx
  rw [expanded?, h]
  cases a.url? with
  | none => exact ⟨⟨a.name, l.url⟩, by simp [hl]⟩
  | some u => exact ⟨⟨a.name, u⟩, by simp⟩

/-! ### The catalog of a view -/

theorem ok_apply (h : s.apply c = .ok d) : (s.aliases = [] ∧ d = c) ∨ (s.Declared c ∧
    Catalog.ofListings (c.listings.flatMap s.visible ++ s.aliases.filterMap (expanded? c)) =
      .ok d) := by
  rw [apply] at h
  split at h
  · rename_i hempty
    cases h
    exact .inl ⟨List.isEmpty_iff.mp hempty, rfl⟩
  · split at h
    · contradiction
    · rename_i hfind
      refine .inr ⟨fun a ha => ?_, h⟩
      simpa using List.find?_eq_none.mp hfind a ha

theorem exists_listing_of_shows (hdeclared : s.Declared c) (h : s.Shows c n) :
    ∃ l ∈ c.listings.flatMap s.visible ++ s.aliases.filterMap (expanded? c), l.name = n := by
  rcases h with hexpansion | ⟨m, hbehind, hm⟩
  · obtain ⟨x, hx⟩ := Option.isSome_iff_exists.mp hexpansion
    obtain ⟨a, hfind, hax⟩ := Option.bind_eq_some_iff.mp hx
    obtain ⟨ha, hname⟩ := find?_mem hfind
    have hrefers := hdeclared a ha
    rw [Alias.refersTo_of_expansion? hax] at hrefers
    obtain ⟨l, hl⟩ := exists_expanded? hax hrefers
    have hmem : l ∈ s.aliases.filterMap (expanded? c) := List.mem_filterMap.mpr ⟨a, ha, hl⟩
    exact ⟨l, List.mem_append_right _ hmem, (expanded?_name hl).trans hname⟩
  · obtain ⟨l, hl, rfl⟩ := Catalog.contains_iff.mp hm
    -- behind a name there is what `visible` makes a listing of that name from
    rcases behind?_cases hbehind with ⟨heq, -, hshown⟩ | ⟨a, hfind, htarget⟩
    · have hvisible : l ∈ s.visible l := mem_visible_iff.mpr (.inl ⟨rfl, heq ▸ hshown⟩)
      exact ⟨l, List.mem_append_left _ (List.mem_flatMap.mpr ⟨l, hl, hvisible⟩), heq⟩
    · obtain ⟨ha, hname⟩ := find?_mem hfind
      have hvisible : ⟨a.name, a.url?.getD l.url⟩ ∈ s.visible l :=
        mem_visible_iff.mpr (.inr ⟨a, ha, htarget, rfl⟩)
      exact ⟨_, List.mem_append_left _ (List.mem_flatMap.mpr ⟨l, hl, hvisible⟩), hname⟩

theorem shows_of_listing (hdeclared : s.Declared c) {l : Listing K}
    (h : l ∈ c.listings.flatMap s.visible ++ s.aliases.filterMap (expanded? c)) :
    s.Shows c l.name := by
  cases hfind : s.find? l.name with
  | some a => exact shows_of_find? hdeclared hfind
  | none =>
      -- no alias has this name, so it is a name of the catalog that was kept
      rw [shows_iff_of_find? hfind]
      rcases List.mem_append.mp h with hvisible | hexpanded
      · obtain ⟨k, hk, hl⟩ := List.mem_flatMap.mp hvisible
        rcases mem_visible_iff.mp hl with ⟨rfl, htarget | ⟨a, ha, -⟩⟩ | ⟨a, ha, -, rfl⟩
        · exact ⟨htarget, Catalog.contains_iff.mpr ⟨l, hk, rfl⟩⟩
        · rw [hfind] at ha
          contradiction
        · exact absurd rfl (name_ne_of_find? hfind ha)
      · obtain ⟨a, ha, hl⟩ := List.mem_filterMap.mp hexpanded
        exact absurd (expanded?_name hl).symm (name_ne_of_find? hfind ha)

/-- An alias that was applied has a name of the catalog behind it. -/
theorem behind?_eq_or_contains (h : s.apply c = .ok d) (hbehind : s.behind? n = some m) :
    m = n ∨ c.contains m = true := by
  rcases behind?_cases hbehind with ⟨heq, -⟩ | ⟨a, hfind, htarget⟩
  · exact .inl heq
  · obtain ⟨ha, -⟩ := find?_mem hfind
    rcases ok_apply h with ⟨hempty, -⟩ | ⟨hdeclared, -⟩
    · rw [hempty] at ha
      contradiction
    · exact .inr (Alias.refersTo_of_target? htarget ▸ hdeclared a ha)

/-- A view has exactly the names that it shows. -/
theorem contains_apply (h : s.apply c = .ok d) : d.contains n = true ↔ s.Shows c n := by
  rcases ok_apply h with ⟨hempty, rfl⟩ | ⟨hdeclared, hlistings⟩
  · have hfind : s.find? n = none := by
      rw [find?, hempty]
      rfl
    rw [shows_iff_of_find? hfind, hempty]
    simp [Alias.targets]
  · rw [Catalog.contains_of_ofListings hlistings, List.mem_map]
    constructor
    · rintro ⟨l, hl, rfl⟩
      exact shows_of_listing hdeclared hl
    · exact exists_listing_of_shows hdeclared

/-! ### The urls of a view -/

/-- A name that is not an abbreviation is listed with the url of its alias, or else with that
of the name behind it. -/
theorem find?_apply_of_behind {l : Listing K} (h : s.apply c = .ok d)
    (hbehind : s.behind? n = some m) (hl : c.find? m = some l) :
    d.find? n = some ⟨n, (s.ownUrl? n).getD l.url⟩ := by
  obtain ⟨hmem, rfl⟩ := Catalog.find?_eq_some_iff.mp hl
  rcases ok_apply h with ⟨hempty, rfl⟩ | ⟨-, hlistings⟩
  · rcases behind?_cases hbehind with ⟨rfl, hurl, -⟩ | ⟨a, hfind, -⟩
    · rw [hurl]
      exact hl
    · rw [find?, hempty] at hfind
      contradiction
  · have hvisible : ⟨n, (s.ownUrl? n).getD l.url⟩ ∈ s.visible l := by
      rcases behind?_cases hbehind with ⟨rfl, hurl, hshown⟩ | ⟨a, hfind, htarget⟩
      · rw [hurl]
        exact mem_visible_iff.mpr (.inl ⟨rfl, hshown⟩)
      · obtain ⟨ha, rfl⟩ := find?_mem hfind
        rw [ownUrl?_of_find? hfind]
        exact mem_visible_iff.mpr (.inr ⟨a, ha, htarget, rfl⟩)
    refine Catalog.find?_eq_some_iff.mpr ⟨(Catalog.mem_of_ofListings hlistings).mpr ?_, rfl⟩
    exact List.mem_append_left _ (List.mem_flatMap.mpr ⟨l, hmem, hvisible⟩)

/-- An abbreviation is listed with the url of its alias, or else with that of the plugin that
its selector names. -/
theorem find?_apply_of_expansion {l : Listing K} {x : Selector K} (h : s.apply c = .ok d)
    (hx : s.expansion? n = some x) (hl : c.find? x.name = some l) :
    d.find? n = some ⟨n, (s.ownUrl? n).getD l.url⟩ := by
  obtain ⟨a, hfind, hax⟩ := Option.bind_eq_some_iff.mp hx
  obtain ⟨ha, rfl⟩ := find?_mem hfind
  rcases ok_apply h with ⟨hempty, -⟩ | ⟨-, hlistings⟩
  · rw [hempty] at ha
    contradiction
  · have hexpanded : expanded? c a = some ⟨a.name, a.url?.getD l.url⟩ := by
      rw [expanded?, hax, Option.bind_some, hl]
      cases a.url? with
      | none => rfl
      | some u => rfl
    rw [ownUrl?_of_find? hfind]
    refine Catalog.find?_eq_some_iff.mpr ⟨(Catalog.mem_of_ofListings hlistings).mpr ?_, rfl⟩
    exact List.mem_append_right _ (List.mem_filterMap.mpr ⟨a, ha, hexpanded⟩)

/-- No alias has a url of its own. -/
def KeepsUrls (s : AliasSet K) : Prop :=
  ∀ a ∈ s.aliases, a.url? = none

theorem KeepsUrls.ownUrl?_eq_none (hurls : s.KeepsUrls) (n : Name K) : s.ownUrl? n = none := by
  cases hfind : s.find? n with
  | none => exact ownUrl?_of_find?_none hfind
  | some a => rw [ownUrl?_of_find? hfind, hurls a (find?_mem hfind).1]

/-! ### The whole view -/

/-- The plugin that an abbreviation selects is in the catalog. -/
theorem exists_find?_of_expansion {x : Selector K} (h : s.apply c = .ok d)
    (hx : s.expansion? n = some x) : ∃ l, c.find? x.name = some l := by
  obtain ⟨a, hfind, hax⟩ := Option.bind_eq_some_iff.mp hx
  obtain ⟨ha, -⟩ := find?_mem hfind
  rcases ok_apply h with ⟨hempty, -⟩ | ⟨hdeclared, -⟩
  · rw [hempty] at ha
    contradiction
  · have hrefers := hdeclared a ha
    rw [Alias.refersTo_of_expansion? hax] at hrefers
    exact Option.isSome_iff_exists.mp hrefers

/-- A name that a view does not show is not found in it. -/
theorem find?_apply_of_not_shows (h : s.apply c = .ok d) (hn : ¬ s.Shows c n) :
    d.find? n = none := by
  rw [← contains_apply h, Catalog.contains, Option.not_isSome_iff_eq_none] at hn
  exact hn

/-- What a set of aliases shows of a catalog is what the names in front of it stand for. An
abbreviation is listed as the plugin that it selects, any other name as the one behind it,
either of them under the url of the alias where that declares one. A name with nothing behind
it is not listed, and there are no other listings. -/
theorem view_lists_what_names_stand_for (h : s.apply c = .ok d) :
    (∀ n x, s.expansion? n = some x → ∃ l, c.find? x.name = some l ∧
      d.find? n = some ⟨n, (s.ownUrl? n).getD l.url⟩) ∧
    (∀ n m, s.expansion? n = none → s.behind? n = some m →
      d.find? n = (c.find? m).map fun l => ⟨n, (s.ownUrl? n).getD l.url⟩) ∧
    (∀ n, s.expansion? n = none → s.behind? n = none → d.find? n = none) ∧
    ∀ l, l ∈ d.listings ↔ d.find? l.name = some l := by
  refine ⟨fun n x hx => ?_, fun n m hx hbehind => ?_, fun n hx hbehind => ?_, fun l => ?_⟩
  · obtain ⟨l, hl⟩ := exists_find?_of_expansion h hx
    exact ⟨l, hl, find?_apply_of_expansion h hx hl⟩
  · cases hl : c.find? m with
    | some l => exact find?_apply_of_behind h hbehind hl
    | none => exact find?_apply_of_not_shows h (by simp [Shows, hx, hbehind, Catalog.contains, hl])
  · exact find?_apply_of_not_shows h (by simp [Shows, hx, hbehind])
  · simp [Catalog.find?_eq_some_iff]

namespace Sample

def kind : Kind := ⟨"counter".toList, []⟩

def amount : Name kind := ⟨"amount".toList, by decide⟩

def count : Name kind := ⟨"count".toList, by decide⟩

def pair : Name kind := ⟨"pair".toList, by decide⟩

def sum : Name kind := ⟨"sum".toList, by decide⟩

def total : Name kind := ⟨"total".toList, by decide⟩

def urlOfAmount : ListedUrl := ⟨⟨"urn:amount".toList⟩, by decide⟩

def urlOfCount : ListedUrl := ⟨⟨"urn:count".toList⟩, by decide⟩

def urlOfSum : ListedUrl := ⟨⟨"urn:sum".toList⟩, by decide⟩

def catalog : Catalog kind where
  listings := [⟨count, urlOfCount⟩, ⟨sum, urlOfSum⟩]
  increasing := by
    rw [Sorted.Increasing]
    decide

/-- The plugin `count` stays visible next to `amount`, which has a url of its own; `sum` is
only seen as `total` and in the abbreviation `pair`. -/
def view : AliasSet kind where
  aliases := [.standsFor amount (.bare count) (some urlOfAmount), .plain count,
    .standsFor pair ⟨sum, "(count, 1)".toList, by decide⟩ none, .standsFor total (.bare sum) none]
  increasing := by
    rw [Sorted.Increasing]
    decide
  unshadowed := by decide

end Sample

open Sample in
theorem view_lists_what_names_stand_for_in_sample : ∃ d, view.apply catalog = .ok d ∧
    d.find? count = some ⟨count, urlOfCount⟩ ∧ d.find? amount = some ⟨amount, urlOfAmount⟩ ∧
    d.find? pair = some ⟨pair, urlOfSum⟩ ∧ d.find? total = some ⟨total, urlOfSum⟩ ∧
    d.find? sum = none := by
  have happly : (view.apply catalog).isOk = true := by decide
  cases hview : view.apply catalog with
  | error e =>
      rw [hview] at happly
      contradiction
  | ok d =>
      obtain ⟨hexpansion, hbehind, hhidden, -⟩ := view_lists_what_names_stand_for hview
      obtain ⟨l, hl, hpair⟩ := hexpansion pair _ rfl
      obtain rfl := Option.some.inj (hl.symm.trans (rfl : catalog.find? sum = some ⟨sum, urlOfSum⟩))
      exact ⟨d, rfl, hbehind count count rfl rfl, hbehind amount count rfl rfl, hpair,
        hbehind total sum rfl rfl, hhidden sum rfl rfl⟩

end AliasSet

end PluginForms
