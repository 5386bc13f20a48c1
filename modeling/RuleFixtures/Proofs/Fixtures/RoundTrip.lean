import RuleFixtures.Fixtures.TestFile
import RuleFixtures.Proofs.Yaml.Document

/-!
Unit-test files are read back.

All that is asked of a reader is that it reads the documents that `Yaml.read?` reads, and reads
them so.

* `TestFile.isTextual` says that the series keys, labels and expressions of a file are texts.
* `TestFile.load_render`: a file reads as its document, but for the next lines in texts that are
  written in single quotes; files with different documents have different texts.
* `nextLine_lost`: a file that reads as another.
-/

namespace RuleFixtures

/-! ### Files of texts -/

/-- Is the value a text? -/
def Json.isText : Json → Bool
  | .text _ => true
  | _ => false

/-- Are the keys, the labels and the expression of a fixture texts? -/
def Fixture.isTextual (fixture : Fixture) : Bool :=
  fixture.inputSeries.all (fun row => row.series.isText) && fixture.test.expr.isText &&
    fixture.test.expected.all fun sample => sample.labels.isText

/-- Are the keys, the labels and the expressions of a file texts? -/
def TestFile.isTextual (file : TestFile) : Bool := file.tests.all Fixture.isTextual

namespace Yaml

/-! ### Files are written -/

instance (name : String) : Decidable (IsKey name) :=
  decidable_of_iff (Scalar.isPlain name.toList = true ∧ name.toList.all isKeyChar = true ∧
      name.toList.length ≤ 128)
    ⟨fun ⟨hplain, hletters, hlength⟩ => ⟨hplain, List.all_eq_true.1 hletters, hlength⟩,
      fun ⟨hplain, hletters, hlength⟩ => ⟨hplain, List.all_eq_true.2 hletters, hlength⟩⟩

/-- The names of the members in a file and in its parts. -/
def memberNames : List String :=
  ["rule_files", "evaluation_interval", "tests", "interval", "input_series", "promql_expr_test",
   "expr", "eval_time", "exp_samples", "labels", "value", "series", "values"]

lemma isKey_of_mem_memberNames : ∀ name ∈ memberNames, IsKey name := by decide +kernel

/-- An object is written whose names are given. -/
lemma IsWritable.object_of_names {members : List (String × Json)} (names : List String)
    (hnames : members.map Prod.fst = names) (hkeys : ∀ name ∈ names, name ∈ memberNames)
    (hnodup : names.Nodup) (hvalues : ∀ value ∈ members.map Prod.snd, IsWritable value) :
    IsWritable (.object members) := by
  subst hnames
  exact .object
    (fun entry hentry => isKey_of_mem_memberNames _ (hkeys _ (List.mem_map_of_mem hentry))) hnodup
    fun entry hentry => hvalues _ (List.mem_map_of_mem hentry)

lemma IsWritable.list_map {α : Type} {f : α → Json} {items : List α}
    (h : ∀ item ∈ items, IsWritable (f item)) : IsWritable (.list (items.map f)) := by
  refine .list fun value hvalue => ?_
  obtain ⟨item, hitem, rfl⟩ := List.mem_map.1 hvalue
  exact h item hitem

lemma isWritable_of_isText {value : Json} (h : value.isText = true) : IsWritable value := by
  cases value with
  | text s => exact .text s
  | _ => cases h

lemma isWritable_inputSeries {row : InputSeries} (h : row.series.isText = true) :
    IsWritable row.toJson := by
  refine .object_of_names ["series", "values"] rfl (by decide) (by decide) ?_
  simp [isWritable_of_isText h, IsWritable.text]

lemma isWritable_expectedSample {sample : ExpectedSample} (h : sample.labels.isText = true) :
    IsWritable sample.toJson := by
  refine .object_of_names ["labels", "value"] rfl (by decide) (by decide) ?_
  simp [isWritable_of_isText h, IsWritable.float]

lemma isWritable_expressionTest {test : ExpressionTest} (hexpr : test.expr.isText = true)
    (hexpected : ∀ sample ∈ test.expected, sample.labels.isText = true) :
    IsWritable test.toJson := by
  have hsamples : IsWritable (.list (test.expected.map ExpectedSample.toJson)) :=
    .list_map fun sample hsample => isWritable_expectedSample (hexpected sample hsample)
  refine .object_of_names ["expr", "eval_time", "exp_samples"] rfl (by decide) (by decide) ?_
  simp [isWritable_of_isText hexpr, IsWritable.text, hsamples]

lemma isWritable_fixture {fixture : Fixture} (h : fixture.isTextual = true) :
    IsWritable fixture.toJson := by
  simp only [Fixture.isTextual, Bool.and_eq_true, List.all_eq_true] at h
  obtain ⟨⟨hrows, hexpr⟩, hexpected⟩ := h
  have hseries : IsWritable (.list (fixture.inputSeries.map InputSeries.toJson)) :=
    .list_map fun row hrow => isWritable_inputSeries (hrows row hrow)
  have htest : IsWritable (.list [fixture.test.toJson]) :=
    .list (by simpa using isWritable_expressionTest hexpr hexpected)
  refine .object_of_names ["interval", "input_series", "promql_expr_test"] rfl (by decide)
    (by decide) ?_
  simp [IsWritable.text, hseries, htest]

/-- A file of texts is written. -/
lemma isWritable_testFile {file : TestFile} (h : file.isTextual = true) :
    IsWritable file.toJson := by
  rw [TestFile.isTextual, List.all_eq_true] at h
  have hfiles : IsWritable (.list (file.ruleFiles.map .text)) :=
    .list_map fun path _ => .text path
  have htests : IsWritable (.list (file.tests.map Fixture.toJson)) :=
    .list_map fun fixture hfixture => isWritable_fixture (h fixture hfixture)
  refine .object_of_names ["rule_files", "evaluation_interval", "tests"] rfl (by decide)
    (by decide) ?_
  simp [IsWritable.text, hfiles, htests]

end Yaml

namespace TestFile

/-! ### Files are read -/

/-- A file is read, each of its texts as what it reads as. -/
lemma readBy?_render {file : TestFile} (h : file.isTextual = true) (asBreak : Char → Char) :
    Yaml.readBy? asBreak file.render = some (file.toJson.mapTexts (Yaml.readBack asBreak)) :=
  Yaml.readBy?_document (Yaml.isWritable_testFile h)

/-- With all breaks as they are, a file reads as its document. -/
lemma readBy?_id_render {file : TestFile} (h : file.isTextual = true) :
    Yaml.readBy? id file.render = some file.toJson := by
  rw [readBy?_render h, (Json.mapTexts_eq_iff _).2 fun text _ => Yaml.readBack_id text]

/-- A file reads as its document with each text as what that text reads as. This is the document
itself if and only if no text in single quotes has a next line. In any case, files with different
documents have different texts. -/
theorem load_render {load : String → Option Json}
    (hload : ∀ text value, Yaml.read? text = some value → load text = some value)
    {file : TestFile} (hfile : file.isTextual = true) :
    load file.render = some (file.toJson.mapTexts (Yaml.readBack Yaml.lineFeed)) ∧
      (load file.render = some file.toJson ↔ ∀ text ∈ file.toJson.texts,
        ¬ (Yaml.Scalar.isSingle text.toList = true ∧ '\x85' ∈ text.toList)) ∧
      ∀ other : TestFile, other.isTextual = true → file.render = other.render →
        file.toJson = other.toJson := by
  have hread : load file.render = some (file.toJson.mapTexts (Yaml.readBack Yaml.lineFeed)) :=
    hload _ _ (readBy?_render hfile Yaml.lineFeed)
  refine ⟨hread, ?_, fun other hother hsame => ?_⟩
  · rw [hread, Option.some_inj, Json.mapTexts_eq_iff]
    exact forall₂_congr fun text _ => Yaml.readBack_eq_iff text
  · -- a reader that keeps all breaks tells the two documents apart
    have hback := readBy?_id_render hfile
    rw [hsame, readBy?_id_render hother, Option.some_inj] at hback
    exact hback.symm

end TestFile

/-! ### Two files -/

/-- A file whose texts look like a comment, a number and a mark of the format, with an expected
value that is not a number. -/
def oddTexts : TestFile where
  tests :=
    [{ interval := .ofMinutes 1
       inputSeries := [⟨.text "up\x7bjob=\"it's: #1\"\x7d", "1 _ 2"⟩, ⟨.text "two\nlines", "NaN"⟩]
       test := ⟨.text "# 1", .ofMinutes 5,
         [⟨.text "1e3", .nan⟩, ⟨.text "\t\x85", .infinite true⟩]⟩ }]
  ruleFiles := ["---", "null", ""]

theorem load_render_oddTexts : Yaml.read? oddTexts.render = some oddTexts.toJson := by
  have hfile : oddTexts.isTextual = true := by decide +kernel
  obtain ⟨-, hkept, -⟩ :=
    TestFile.load_render (fun text value (h : Yaml.read? text = some value) => h) hfile
  exact hkept.2 (by decide +kernel)

/-- A file whose only text has a next line between two letters. -/
def nextLine : TestFile where
  tests := []
  ruleFiles := ["a\x85b"]

/-- The next line is written in single quotes and reads as a space. -/
theorem nextLine_lost :
    nextLine.render =
        "rule_files:\n- 'a\x85  b'\nevaluation_interval: 1m\ntests: []\n" ∧
      Yaml.read? nextLine.render = some (TestFile.toJson { nextLine with ruleFiles := ["a b"] }) ∧
      Yaml.read? nextLine.render ≠ some nextLine.toJson := by
  decide +kernel

end RuleFixtures
