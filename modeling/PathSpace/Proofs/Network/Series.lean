import PathSpace.Proofs.Address.Properties
import PathSpace.Proofs.Address.Selector
import PathSpace.Proofs.Network.Dropping
/-!
# Asking for a history

A get gives the history of each path, not just the newest value, if the properties of its selector
ask for one.  The properties are cut into entries to see that, and nothing is read into a map.  The
names in the map tell the same, as a word that asks for a history has no `=` and so cannot reach
beyond a name.

## Key results

- `Properties.NamesSeries`: some name asks for a history
- `Selector.isForSeries_iff`: cutting the text and reading it agree
- `Workspace.series_of_beginGet`: the properties decide what a get gives
-/

namespace PathSpace

open Text

/-- The name of some property begins with a word that asks for a history. -/
def Properties.NamesSeries (p : Properties) : Prop :=
  ∃ name ∈ p.keys, "starttime".toList <+: name.toList ∨ "stoptime".toList <+: name.toList

namespace Selector

/-- An entry asks for a history if its name does. -/
private theorem any_seriesWords_iff (piece : List Char) :
    (seriesWords.any fun word => word.toList.isPrefixOf piece) = true ↔
      "starttime".toList <+: (Properties.entry piece).1.toList ∨
        "stoptime".toList <+: (Properties.entry piece).1.toList := by
  rw [Properties.prefix_name_entry_iff (by decide), Properties.prefix_name_entry_iff (by decide)]
  simp only [seriesWords, List.any_cons, List.any_nil, Bool.or_false, Bool.or_eq_true,
    List.isPrefixOf_iff_prefix]

/-- A selector asks for a history exactly if the name of one of its properties does. -/
theorem isForSeries_iff (s : Selector) :
    s.isForSeries = true ↔ s.parsedProperties.NamesSeries := by
  rw [isForSeries, List.any_eq_true, parsedProperties, Properties.NamesSeries]
  simp only [any_seriesWords_iff, Properties.mem_keys_parse_iff, properties, String.toList_ofList]
  constructor
  · rintro ⟨piece, hpiece, hleads⟩
    refine ⟨_, ⟨?_, piece, hpiece, rfl⟩, hleads⟩
    -- the one entry of an empty text has an empty name
    intro hempty
    have hnil : s.parts.properties = [] := String.ofList_eq_empty_iff.1 hempty
    rw [hnil] at hpiece
    obtain rfl : piece = [] := List.mem_singleton.1 hpiece
    revert hleads
    decide
  · rintro ⟨_, ⟨-, piece, hpiece, rfl⟩, hleads⟩
    exact ⟨piece, hpiece, hleads⟩

/-- What the properties do not say has no influence. -/
private theorem isForSeries_congr {s s' : Selector} (h : s.properties = s'.properties) :
    s.isForSeries = s'.isForSeries := by
  rw [Bool.eq_iff_iff, isForSeries_iff, isForSeries_iff, parsedProperties, parsedProperties, h]

/-- In the path, the predicate, a value and the fragment the words mean nothing. -/
example : (parse "/starttime?stoptime(p=starttime)#stoptime").map (·.isForSeries) = .ok false :=
  rfl

end Selector

namespace Workspace

/-- A selector of a workspace asks for a history wherever the workspace lies. -/
private theorem isForSeries_absoluteSelector (w : Workspace) (s : Selector) :
    (w.absoluteSelector s).isForSeries = s.isForSeries := by
  apply Selector.isForSeries_congr
  rw [absoluteSelector]
  split <;> rfl

/-- Whether a get that has begun gives a history. -/
private theorem series_eq_of_beginGet {w : Workspace} {s : Selector} {n m : Network}
    {g : PendingGet}
    (hbegin : (w.beginGet s).run n = (.ok g, m)) : g.series = s.isForSeries := by
  rcases w.beginGet_cases s n with ⟨query, m', -, hrun⟩ | ⟨e, m', -, hrun⟩
  · rw [hbegin] at hrun
    obtain rfl := Except.ok.inj (Prod.mk.inj hrun).1
    exact w.isForSeries_absoluteSelector s
  · rw [hbegin] at hrun
    cases hrun

/-- A selector asks for a history exactly if the name of one of its properties does, and so do the
selector that its text is read as and those that it becomes below other paths.  This alone decides
what a get gives. -/
theorem series_of_beginGet (s : Selector) :
    (s.isForSeries = true ↔ s.parsedProperties.NamesSeries) ∧
    (∃ again, Selector.parse s.text = .ok again ∧ again.isForSeries = s.isForSeries) ∧
    (∀ root : Path, (s.under root).isForSeries = s.isForSeries) ∧
    (∀ s' : Selector, s'.properties = s.properties → s'.isForSeries = s.isForSeries) ∧
    ∀ (w : Workspace) (n m : Network) (g : PendingGet), (w.beginGet s).run n = (.ok g, m) →
      (g.series = true ↔ s.parsedProperties.NamesSeries) := by
  refine ⟨s.isForSeries_iff, ⟨s, ?_, rfl⟩, fun root => Selector.isForSeries_congr rfl,
    fun s' => Selector.isForSeries_congr, fun w n m g hbegin => ?_⟩
  · rw [Selector.parse_eq_ok_iff, Selector.text, String.toList_ofList]
    exact s.grammatical.parts?_text
  · rw [series_eq_of_beginGet hbegin]
    exact s.isForSeries_iff

/-! ### A word in another part -/

/-- The selector `/a?starttime(p=v;stoptime=10)#starttime`. -/
def stoptimeSelector : Selector :=
  ⟨⟨"/a".toList, "starttime".toList, "p=v;stoptime=10".toList, "starttime".toList⟩,
    ⟨by decide, by simp [Selector.isPathChar], by simp [Selector.isPredicateChar], by decide,
      by decide, by decide⟩⟩

/-- The get that asks for this history first. -/
def historyGet : PendingGet := ⟨⟨0, 0⟩, 0, true⟩

theorem series_of_stoptime :
    ∃ m, (strictWorkspace.beginGet stoptimeSelector).run oneSession = (.ok historyGet, m) ∧
      historyGet.series = true ∧ stoptimeSelector.parsedProperties.NamesSeries := by
  have hbegin : (strictWorkspace.beginGet stoptimeSelector).run oneSession =
      (.ok historyGet, ((strictWorkspace.beginGet stoptimeSelector).run oneSession).2) := rfl
  obtain ⟨-, -, -, -, hget⟩ := series_of_beginGet stoptimeSelector
  exact ⟨_, hbegin, rfl, (hget _ _ _ _ hbegin).1 rfl⟩

end Workspace

end PathSpace
