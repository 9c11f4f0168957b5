import AntTrail.Proofs.Settings.Partial

/-!
# Texts that write some settings

A text that writes some settings is read as those that hold when nothing is said, with just these
settings replaced, at every level; and a text that writes a setting twice in one record is not
read at all (`RunSettings.ofText_partial`).

Not every JSON text is as good as another. A key that is no text is refused where a record is
read, even if it belongs to no field, and so is a whole number that is written with a sign before
zero, or with an exponent (`RunSettings.ofText_strict`).
-/
namespace AntTrail

open Json
open Json.Document (WritesInteger WritesRecord)

/-! ## Settings that are written twice -/

namespace Position

theorem fields_whole : ∀ f ∈ schema.fields, f.read.Whole := by
  simp only [schema, List.forall_mem_cons]
  exact ⟨Reader.int32_whole.map _, Reader.int32_whole.map _, nofun⟩

theorem read_whole : schema.read.Whole := Schema.read_whole fields_whole

end Position

namespace TrialSettings

theorem fields_whole : ∀ f ∈ schema.fields, f.read.Whole := by
  simp only [schema, List.forall_mem_cons]
  exact ⟨Reader.int32_whole.map _, Reader.int32_whole.map _, Reader.int32_whole.map _,
    (Reader.optional_whole Reader.int32_whole).map _, Position.read_whole.map _,
    Reader.choice_whole.map _, nofun⟩

theorem read_whole : schema.read.Whole := Schema.read_whole fields_whole

/-- A setting of a trial is written twice, or a coordinate of its start. -/
def Repeats (d : Document) : Prop := schema.Twice d ∨ d.Within "start" Position.schema.Twice

theorem read_refuses {d : Document} (h : Repeats d) : schema.read.Refuses d.tokens := by
  rcases h with h | h
  · exact Schema.read_refuses_of_twice fields_whole h
  · exact Schema.read_refuses_of_within fields_whole rfl
      (fun _ hd => (Schema.read_refuses_of_twice Position.fields_whole hd).map _) h

end TrialSettings

namespace GrowthBounds

theorem fields_whole : ∀ f ∈ schema.fields, f.read.Whole := by
  simp only [schema, List.forall_mem_cons]
  exact ⟨Reader.uint32_whole.map _, Reader.uint32_whole.map _, nofun⟩

theorem read_whole : schema.read.Whole := Schema.read_whole fields_whole

end GrowthBounds

namespace EvolutionSettings

theorem fields_whole : ∀ f ∈ schema.fields, f.read.Whole := by
  simp only [schema, List.forall_mem_cons]
  exact ⟨Reader.size_whole.map _, Reader.uint64_whole.map _, Reader.size_whole.map _,
    Reader.size_whole.map _, Reader.real_whole.map _, Reader.uint64_whole.map _,
    Reader.size_whole.map _, Reader.bool_whole.map _, GrowthBounds.read_whole.map _,
    TrialSettings.read_whole.map _, nofun⟩

theorem read_whole : schema.read.Whole := Schema.read_whole fields_whole

/-- A setting of an evolution is written twice, or one of its bounds or of its trial. -/
def Repeats (d : Document) : Prop :=
  schema.Twice d ∨ d.Within "generator" GrowthBounds.schema.Twice ∨
    d.Within "simulation" TrialSettings.Repeats

theorem read_refuses {d : Document} (h : Repeats d) : schema.read.Refuses d.tokens := by
  rcases h with h | h | h
  · exact Schema.read_refuses_of_twice fields_whole h
  · exact Schema.read_refuses_of_within fields_whole rfl
      (fun _ hd => (Schema.read_refuses_of_twice GrowthBounds.fields_whole hd).map _) h
  · exact Schema.read_refuses_of_within fields_whole rfl
      (fun _ hd => (TrialSettings.read_refuses hd).map _) h

end EvolutionSettings

namespace RunSettings

theorem fields_whole : ∀ f ∈ schema.fields, f.read.Whole := by
  have htext : optionalText.Whole := Reader.optional_whole (Reader.string_whole _)
  simp only [schema, List.forall_mem_cons]
  exact ⟨EvolutionSettings.read_whole.map _, htext.map _, htext.map _, htext.map _, htext.map _,
    Reader.uint64_whole.map _, (Reader.string_whole _).map _, Reader.bool_whole.map _, nofun⟩

/-- A setting of a run is written twice, or one of its evolution. -/
def Repeats (d : Document) : Prop :=
  schema.Twice d ∨ d.Within "evolution" EvolutionSettings.Repeats

theorem read_refuses {d : Document} (h : Repeats d) : schema.read.Refuses d.tokens := by
  rcases h with h | h
  · exact Schema.read_refuses_of_twice fields_whole h
  · exact Schema.read_refuses_of_within fields_whole rfl
      (fun _ hd => (EvolutionSettings.read_refuses hd).map _) h

/-! ## Whole texts -/

theorem unreadable_eq (e : ReadError) :
    unreadable e = "Serialization error: " ++ e.message := by
  unfold unreadable
  generalize e.message = m
  rfl

/-- Where settings are written, they are read: those that hold when nothing is said, with just the
named fields replaced, at every level. A text in which a field is written twice in one record is
not read. -/
theorem ofText_partial {text : String} {d : Document} (h : d.Spelt text) :
    (∀ p : Partial, WritesRecord parts p d → ofText text = .ok (p.over {})) ∧
      (Repeats d → ∃ e, ofText text = .error e ∧
        unreadable e = "Serialization error: " ++ e.message) := by
  constructor
  · intro p hp
    exact readText_of_takes h (read_takes hp)
  · intro hrepeats
    have hrefuses : schema.read.Refuses d.tokens := read_refuses hrepeats
    obtain ⟨e, he⟩ := readText_of_refuses h hrefuses
    exact ⟨e, he, unreadable_eq e⟩

/-- The number seven. -/
def seven : Literal := ⟨false, ['7'], [], none⟩

theorem seven_spelt : seven.Spelt ['7'] := by
  have hwhole : Literal.Whole ['7'] := .single rfl
  have hunsigned : seven.Unsigned (['7'] ++ ([] ++ [])) := .mk hwhole .none .none
  exact .positive rfl hunsigned

theorem seven_writes : seven.Writes 7 := ⟨⟨rfl, rfl⟩, by decide, by decide⟩

/-- Two settings, and a remark. -/
def remarked : Document := .record [
  (pieces "note", .list [.null]),
  (pieces "log_json", .bool true),
  (pieces "evolution", .record [(pieces "seed", .number seven)])]

theorem remarked_spelt :
    remarked.Spelt
      "\x7b\"note\":[null], \"log_json\":true,\"evolution\":\x7b\"seed\":7\x7d\x7d" := by
  refine .cons .openingRecord (.plain _ rfl (.cons .colon ?_))
  refine .cons .openingList (.cons .null (.cons .closingList (.cons .comma ?_)))
  refine .space rfl (.plain _ rfl (.cons .colon (.cons .boolTrue (.cons .comma ?_))))
  refine .plain _ rfl (.cons .colon (.cons .openingRecord ?_))
  refine .plain _ rfl (.cons .colon (.cons (.number seven_spelt) ?_))
  exact .cons .closingRecord (.cons .closingRecord .nil)

theorem remarked_writes : WritesRecord parts
    { evolution := some { seed := some 7 }, logJson := some true } remarked := by
  have hevolution : WritesRecord EvolutionSettings.parts { seed := some 7 }
      (.record [(pieces "seed", .number seven)]) := by
    refine ⟨_, rfl, by simp [Legible, text?_pieces], ?_⟩
    have hseed : WritesInteger 7 (.number seven) := ⟨seven, rfl, seven_writes⟩
    simpa [Fills, EvolutionSettings.parts, valuesOf, text?_pieces] using hseed
  refine ⟨_, rfl, by simp [Legible, text?_pieces], ?_⟩
  simpa [Fills, parts, valuesOf, text?_pieces] using hevolution

/-- Two seeds. -/
def twofold : Document := .record [
  (pieces "evolution", .record [(pieces "seed", .number seven), (pieces "seed", .number seven)])]

theorem twofold_spelt :
    twofold.Spelt "\x7b\"evolution\":\x7b\"seed\":7,\"seed\":7\x7d\x7d" := by
  refine .cons .openingRecord (.plain _ rfl (.cons .colon (.cons .openingRecord ?_)))
  refine .plain _ rfl (.cons .colon (.cons (.number seven_spelt) (.cons .comma ?_)))
  refine .plain _ rfl (.cons .colon (.cons (.number seven_spelt) ?_))
  exact .cons .closingRecord (.cons .closingRecord .nil)

theorem twofold_repeats : Repeats twofold := by
  have htwice : EvolutionSettings.schema.Twice
      (.record [(pieces "seed", .number seven), (pieces "seed", .number seven)]) := by
    refine ⟨_, rfl, EvolutionSettings.schema.fields[5], by simp, ?_⟩
    simp [EvolutionSettings.schema, valuesOf, text?_pieces]
  exact .inr ⟨_, rfl, _, by simp [valuesOf, text?_pieces], .inl htwice⟩

/-- Seven is the seed and all else is as when nothing is said; two seeds are refused, even if they
are the same. -/
theorem ofText_partial_seven :
    (WritesRecord parts { evolution := some { seed := some 7 }, logJson := some true } remarked ∧
      ofText "\x7b\"note\":[null], \"log_json\":true,\"evolution\":\x7b\"seed\":7\x7d\x7d" =
        .ok { evolution := { seed := 7 }, logJson := true }) ∧
    Repeats twofold ∧
      ∃ e, ofText "\x7b\"evolution\":\x7b\"seed\":7,\"seed\":7\x7d\x7d" = .error e := by
  have hread := (ofText_partial remarked_spelt).1 _ remarked_writes
  obtain ⟨e, he, -⟩ := (ofText_partial twofold_spelt).2 twofold_repeats
  exact ⟨⟨remarked_writes, hread⟩, twofold_repeats, e, he⟩

/-! ## What is refused -/

/-- A key that is half of a surrogate pair, and belongs to no field. -/
def halfKey : Members := [([.unit 0xD800], .null)]

theorem text?_half : text? [.unit 0xD800] = none := rfl

theorem halfKey_spelt : (Document.record halfKey).Spelt "\x7b\"\\ud800\":null\x7d" := by
  have hspells : Spells ['\\', 'u', 'd', '8', '0', '0']
      [.unit (((13 * 16 + 8) * 16 + 0) * 16 + 0)] := .unit rfl rfl rfl rfl .nil
  have hkey : Lexeme.Spelt (.string [.unit 0xD800])
      ('"' :: (['\\', 'u', 'd', '8', '0', '0'] ++ ['"'])) := .string hspells
  refine .cons .openingRecord (.cons hkey (.cons .colon ?_))
  exact .cons .null (.cons .closingRecord .nil)

theorem ofText_halfKey : ∃ e, ofText "\x7b\"\\ud800\":null\x7d" = .error e := by
  have hillegible : ¬Legible halfKey := by simp [Legible, halfKey, text?_half]
  have hrefuses : schema.read.Refuses (Document.record halfKey).tokens :=
    Schema.read_refuses_of_not_legible fields_whole hillegible
  exact readText_of_refuses halfKey_spelt hrefuses

/-- The number of generations between two summaries. -/
def interval (l : Literal) : Document := .record [(pieces "report_interval", .number l)]

theorem interval_spelt {l : Literal} {cs : List Char} {text : String} (h : l.Spelt cs)
    (htext : text.toList =
      '\x7b' :: '"' :: ("report_interval".toList ++ '"' :: ':' :: (cs ++ ['\x7d']))) :
    (interval l).Spelt text := by
  show Spaced _ text.toList
  rw [htext]
  refine .cons .openingRecord (.plain "report_interval".toList rfl (.cons .colon ?_))
  exact .cons (.number h) (.cons .closingRecord .nil)

/-- A number of generations that is no integer is refused. -/
theorem ofText_interval {l : Literal} {text : String} (hspelt : (interval l).Spelt text)
    (h : ∀ n, l.value ≠ .ok (.integer n)) : ∃ e, ofText text = .error e := by
  have hwithin : (interval l).Within "report_interval" (· = .number l) :=
    ⟨_, rfl, _, by simp [valuesOf, text?_pieces], rfl⟩
  have hrefuses : schema.read.Refuses (interval l).tokens := by
    refine Schema.read_refuses_of_within fields_whole rfl ?_ hwithin
    rintro _ rfl
    exact ((Reader.integer_refuses h).map _).map _
  exact readText_of_refuses hspelt hrefuses

/-- Zero with a sign. -/
def minusZero : Literal := ⟨true, ['0'], [], none⟩

/-- Ten, written as one with an exponent. -/
def ten : Literal := ⟨false, ['1'], [], some (false, ['1'])⟩

theorem minusZero_spelt : minusZero.Spelt ['-', '0'] := by
  have hwhole : Literal.Whole ['0'] := .single rfl
  have hunsigned : minusZero.Unsigned (['0'] ++ ([] ++ [])) := .mk hwhole .none .none
  exact .negative rfl hunsigned

theorem ten_spelt : ten.Spelt ['1', 'e', '1'] := by
  have hunsigned : ten.Unsigned (['1'] ++ ([] ++ 'e' :: ([] ++ ['1']))) :=
    .mk (.single rfl) .none (.some (.inl rfl) .none (.single rfl))
  exact .positive rfl hunsigned

/-- Each of these texts is JSON, and each is refused. The first says nothing of any setting; the
others give the number of generations between two summaries, as zero and as ten. -/
theorem ofText_strict :
    ((Document.record halfKey).Spelt "\x7b\"\\ud800\":null\x7d" ∧ Fills parts {} halfKey ∧
      ∃ e, ofText "\x7b\"\\ud800\":null\x7d" = .error e) ∧
    ((interval minusZero).Spelt "\x7b\"report_interval\":-0\x7d" ∧
      ∃ e, ofText "\x7b\"report_interval\":-0\x7d" = .error e) ∧
    (interval ten).Spelt "\x7b\"report_interval\":1e1\x7d" ∧
      ∃ e, ofText "\x7b\"report_interval\":1e1\x7d" = .error e := by
  have hminus : (interval minusZero).Spelt "\x7b\"report_interval\":-0\x7d" :=
    interval_spelt minusZero_spelt (by decide)
  have hten : (interval ten).Spelt "\x7b\"report_interval\":1e1\x7d" :=
    interval_spelt ten_spelt (by decide)
  have hfills : Fills parts {} halfKey := by simp [Fills, parts, valuesOf, halfKey, text?_half]
  have hvalue : minusZero.value = .ok (.real (-(Float.ofNat 0))) := rfl
  refine ⟨⟨halfKey_spelt, hfills, ofText_halfKey⟩, ⟨hminus, ofText_interval hminus ?_⟩,
    hten, ofText_interval hten (Literal.value_ne_integer ?_)⟩
  · intro n hn
    rw [hvalue] at hn
    cases hn
  · rintro ⟨-, hexponent⟩
    cases hexponent

end RunSettings

end AntTrail
