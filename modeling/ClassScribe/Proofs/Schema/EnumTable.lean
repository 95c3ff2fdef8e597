import Mathlib.Data.List.Nodup
import ClassScribe.Schema.EnumTable

/-! # Entries that are not found

Of the entries with one text the first one is found (`keyFor?_eq_some_iff`), and the others are listed as duplicates:
if the keys are different, an entry is a duplicate just if its text finds another key (`keyFor?_ne_iff`,
`duplicates_eq_filter`). So each text of the table has one entry that is found, and duplicates besides it
(`filter_not_duplicate`). -/

namespace ClassScribe.EnumTable

variable {t : EnumTable} {before after : List (String × String)} {e : String × String} {text key : String}

/-! ### The first entry with a text -/

/-- The key of the first entry with a text is found. -/
theorem keyFor?_eq_some_iff : t.keyFor? text = some key ↔
    ∃ before after, t.entries = before ++ (key, text) :: after ∧ text ∉ before.map (·.2) := by
  unfold keyFor?
  rw [Option.map_eq_some_iff]
  constructor
  · rintro ⟨⟨k, x⟩, hfind, hkey⟩
    obtain ⟨htext, before, after, hsplit, hbefore⟩ := List.find?_eq_some_iff_append.mp hfind
    obtain rfl : x = text := beq_iff_eq.mp htext
    obtain rfl : k = key := hkey
    refine ⟨before, after, hsplit, fun hmem => ?_⟩
    obtain ⟨f, hf, htext⟩ := List.mem_map.mp hmem
    simpa [htext] using hbefore f hf
  · rintro ⟨before, after, hsplit, hbefore⟩
    refine ⟨(key, text), List.find?_eq_some_iff_append.mpr ⟨beq_self_eq_true _, before, after, hsplit, ?_⟩, rfl⟩
    intro f hf
    have hne : f.2 ≠ text := fun htext => hbefore (List.mem_map.mpr ⟨f, hf, htext⟩)
    simpa using hne

theorem exists_keyFor?_iff : (∃ key, t.keyFor? text = some key) ↔ text ∈ t.entries.map (·.2) := by
  rw [← Option.isSome_iff_exists, keyFor?, Option.isSome_map, List.find?_isSome, List.mem_map]
  simp only [beq_iff_eq]

/-- The text of an entry finds another key just if an earlier entry has it. -/
theorem keyFor?_ne_iff (hkeys : t.keys.Nodup) (hsplit : t.entries = before ++ e :: after) :
    t.keyFor? e.2 ≠ some e.1 ↔ e.2 ∈ before.map (·.2) := by
  constructor
  · intro hne
    by_contra hnone
    exact hne (keyFor?_eq_some_iff.mpr ⟨before, after, hsplit, hnone⟩)
  · intro hmem hfound
    obtain ⟨f, hf, htext⟩ := List.mem_map.mp hmem
    obtain ⟨g, hfind⟩ : ∃ g, before.find? (·.2 == e.2) = some g :=
      Option.isSome_iff_exists.mp (List.find?_isSome.mpr ⟨f, hf, beq_iff_eq.mpr htext⟩)
    rw [keyFor?, hsplit, List.find?_append, hfind] at hfound
    rw [keys, hsplit, List.map_append, List.nodup_append] at hkeys
    exact hkeys.2.2 g.1 (List.mem_map_of_mem (List.mem_of_find?_eq_some hfind)) e.1 (by simp)
      (Option.some.inj hfound)

/-! ### Duplicates -/

/-- The duplicates are the entries whose texts find other keys, in their order. -/
theorem duplicates_eq_filter (hkeys : t.keys.Nodup) :
    t.duplicates = t.entries.filter fun e => t.keyFor? e.2 ≠ some e.1 := by
  have hscan : ∀ x ∈ t.entries.zipIdx,
      (t.entries.take x.2).any (·.2 == x.1.2) = decide (t.keyFor? x.1.2 ≠ some x.1.1) := by
    rintro ⟨e, i⟩ hx
    have hi : t.entries[i]? = some e := List.mk_mem_zipIdx_iff_getElem?.mp hx
    obtain ⟨hlt, rfl⟩ := List.getElem?_eq_some_iff.mp hi
    have hsplit : t.entries = t.entries.take i ++ t.entries[i] :: t.entries.drop (i + 1) := by
      rw [List.getElem_cons_drop, List.take_append_drop]
    rw [Bool.eq_iff_iff, decide_eq_true_eq, keyFor?_ne_iff hkeys hsplit, List.any_eq_true, List.mem_map]
    simp only [beq_iff_eq]
  rw [duplicates, List.filter_congr hscan]
  conv_rhs => rw [← List.zipIdx_map_fst 0 t.entries, List.filter_map]
  rfl

theorem mem_duplicates_iff (hkeys : t.keys.Nodup) (he : e ∈ t.entries) :
    e ∈ t.duplicates ↔ t.keyFor? e.2 ≠ some e.1 := by
  rw [duplicates_eq_filter hkeys, List.mem_filter, decide_eq_true_eq]
  exact and_iff_right he

/-- Of the entries with a text one is no duplicate, and it is the one that is found. -/
theorem filter_not_duplicate (hkeys : t.keys.Nodup) (h : t.keyFor? text = some key) :
    (t.entries.filter fun e => e.2 = text ∧ e ∉ t.duplicates) = [(key, text)] := by
  have hone : ∀ e ∈ t.entries, (e.2 = text ∧ e ∉ t.duplicates) ↔ e = (key, text) := by
    rintro ⟨k, x⟩ he
    rw [mem_duplicates_iff hkeys he, not_not, Prod.mk.injEq]
    constructor
    · rintro ⟨rfl, hfound⟩
      exact ⟨Option.some.inj (hfound.symm.trans h), rfl⟩
    · rintro ⟨rfl, rfl⟩
      exact ⟨rfl, h⟩
  obtain ⟨before, after, hsplit, -⟩ := keyFor?_eq_some_iff.mp h
  have hmem : (key, text) ∈ t.entries := by rw [hsplit]; simp
  rw [List.filter_congr fun e he => decide_eq_decide.mpr (hone e he), List.filter_eq,
    List.count_eq_one_of_mem hkeys.of_map hmem]
  rfl

/-! ### Entries of parameter constants -/

/-- Of parameter constants with different keys, the duplicates are those whose texts find other keys, in their order.
A text finds a key just if a constant has it, and then the key of the one constant with it that is no duplicate. -/
theorem duplicates_not_found {params : List Param} (hkeys : (params.map (·.key)).Nodup) :
    (∀ p ∈ params, (p.key, p.value.lookupText) ∈ (ofParams params).duplicates ↔
      (ofParams params).keyFor? p.value.lookupText ≠ some p.key) ∧
    (ofParams params).duplicates =
      (params.filter fun p => (ofParams params).keyFor? p.value.lookupText ≠ some p.key).map
        (fun p => (p.key, p.value.lookupText)) ∧
    ∀ text,
      ((∃ key, (ofParams params).keyFor? text = some key) ↔ ∃ p ∈ params, p.value.lookupText = text) ∧
      ∀ key, (ofParams params).keyFor? text = some key →
        (params.filter fun p => p.value.lookupText = text ∧
          (p.key, p.value.lookupText) ∉ (ofParams params).duplicates).map (·.key) = [key] := by
  have hentries : (ofParams params).entries = params.map fun p => (p.key, p.value.lookupText) := rfl
  have hdistinct : (ofParams params).keys.Nodup := by
    rw [keys, hentries, List.map_map]
    exact hkeys
  refine ⟨fun p hp => mem_duplicates_iff hdistinct (List.mem_map.mpr ⟨p, hp, rfl⟩), ?_, fun text => ⟨?_, ?_⟩⟩
  · rw [duplicates_eq_filter hdistinct, hentries, List.filter_map]
    rfl
  · rw [exists_keyFor?_iff, hentries, List.map_map, List.mem_map]
    rfl
  · intro key hkey
    have hfilter := congrArg (List.map Prod.fst) (filter_not_duplicate hdistinct hkey)
    rw [hentries, List.filter_map, List.map_map] at hfilter
    exact hfilter

/-- Constants of numbers, texts and references, with two texts that several of them have. -/
def signals : List Param :=
  [⟨"STOP", .number (.int 2), []⟩, ⟨"HALT", .text "2", []⟩, ⟨"GO", .text "Lamp.GREEN", []⟩,
    ⟨"PAUSE", .reference "2", []⟩, ⟨"START", .reference "Lamp.GREEN", []⟩, ⟨"DARK", .text "", []⟩]

theorem duplicates_not_found_signals :
    (signals.map (·.key)).Nodup ∧
    (ofParams signals).duplicates = [("HALT", "2"), ("PAUSE", "2"), ("START", "Lamp.GREEN")] ∧
    (ofParams signals).keyFor? "2" = some "STOP" ∧
    (signals.filter fun p => p.value.lookupText = "2" ∧
      (p.key, p.value.lookupText) ∉ (ofParams signals).duplicates).map (·.key) = ["STOP"] := by
  have hkeys : (signals.map (·.key)).Nodup := by decide
  have hfound : (ofParams signals).keyFor? "2" = some "STOP" := by decide +kernel
  obtain ⟨-, hlisted, htexts⟩ := duplicates_not_found hkeys
  exact ⟨hkeys, hlisted.trans (by decide +kernel), hfound, (htexts "2").2 "STOP" hfound⟩

end ClassScribe.EnumTable
