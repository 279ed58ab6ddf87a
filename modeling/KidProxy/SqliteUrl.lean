import KidProxy.Runtime
import KidProxy.Lib.Percent

/-!
# SqliteUrl — the database that the URL of the writer names

The driver cuts the URL at its first `?` and percent-decodes what stands before it.  The writer escapes
blanks and nothing else.
-/

namespace KidProxy

/-- What the driver reads from a URL. -/
structure SqliteOptions where
  filename : String
  options : String
  deriving DecidableEq, Repr

/-- The driver strips `sqlite://`, cuts at the first `?` and percent-decodes the path. -/
def readSqliteUrl (url : String) : Option SqliteOptions :=
  (Text.stripPrefix "sqlite://".toList url.toList).bind fun rest =>
    let (path, options) := (Text.splitOnce '?' rest).getD (rest, [])
    (Utf8.fromUtf8 (Percent.decode path)).map fun filename => ⟨String.ofList filename, String.ofList options⟩

/-- The URL names the file of the configuration, and the directory of the file that is opened is the one
that was created. -/
structure NamesFile (path : String) : Prop where
  read : readSqliteUrl (sqliteConnectionUrl path) = some ⟨path, "mode=rwc"⟩
  parentDir : ∀ (fs : Fs) (opened : SqliteOptions), readSqliteUrl (sqliteConnectionUrl path) = some opened →
    ensureSqliteParentDir fs path = .ok () →
    ∀ parent, pathParent opened.filename = some parent → fs.createDirAll parent = .ok ()

theorem replaceAll_blank (cs : List Char) :
    Replace.replaceAll [' '] "%20".toList cs = Percent.encodeBlanks cs := by
  induction cs with
  | nil => rfl
  | cons c cs ih =>
    rw [Percent.encodeBlanks_cons]
    split_ifs with hc
    · subst hc
      have happend : Replace.replaceAll [' '] "%20".toList ([' '] ++ cs) =
          "%20".toList ++ Replace.replaceAll [' '] "%20".toList cs :=
        Replace.replaceAll_append (List.cons_ne_nil _ _) cs
      rw [← ih]
      exact happend
    · have hno : ¬ [' '] <+: c :: cs := by
        intro h
        exact hc (List.cons_prefix_cons.mp h).1.symm
      rw [Replace.replaceAll_cons hno, ih]
      rfl

theorem toList_sqliteConnectionUrl {path : String} (h : isMemoryPath path = false) :
    (sqliteConnectionUrl path).toList =
      "sqlite://".toList ++ (Percent.encodeBlanks path.toList ++ "?mode=rwc".toList) := by
  unfold sqliteConnectionUrl
  rw [if_neg (ne_true_of_eq_false h), replaceAll_blank]
  show ("sqlite://" ++ String.ofList (Percent.encodeBlanks path.toList) ++ "?mode=rwc").toList = _
  have hpath : (String.ofList (Percent.encodeBlanks path.toList)).toList = Percent.encodeBlanks path.toList :=
    String.toList_ofList
  rw [String.toList_append, String.toList_append, List.append_assoc, hpath]

theorem stripPrefix_append (pre cs : List Char) : Text.stripPrefix pre (pre ++ cs) = some cs := by
  unfold Text.stripPrefix
  rw [if_pos (List.isPrefixOf_iff_prefix.mpr (List.prefix_append pre cs)), List.drop_left]

theorem question_mem_encodeBlanks {cs : List Char} : '?' ∈ Percent.encodeBlanks cs ↔ '?' ∈ cs := by
  unfold Percent.encodeBlanks
  rw [List.mem_flatMap]
  constructor
  · rintro ⟨c, hc, hmem⟩
    split_ifs at hmem with hblank
    · exact absurd hmem (by decide)
    · rwa [List.mem_singleton.mp hmem]
  · intro h
    exact ⟨'?', h, by decide⟩

/-- What is read of the URL: the path up to its first `?`. -/
theorem readSqliteUrl_url {path : String} {before after : List Char} (hmemory : isMemoryPath path = false)
    (hpath : path.toList ++ "?mode=rwc".toList = before ++ '?' :: after) (hbefore : '?' ∉ before) :
    readSqliteUrl (sqliteConnectionUrl path) =
      (Utf8.fromUtf8 (Percent.decode (Percent.encodeBlanks before))).map
        fun filename => ⟨String.ofList filename, String.ofList (Percent.encodeBlanks after)⟩ := by
  have hencode : Percent.encodeBlanks path.toList ++ "?mode=rwc".toList =
      Percent.encodeBlanks before ++ '?' :: Percent.encodeBlanks after := by
    have hflat := congrArg Percent.encodeBlanks hpath
    unfold Percent.encodeBlanks at hflat ⊢
    rw [List.flatMap_append, List.flatMap_append] at hflat
    exact hflat
  unfold readSqliteUrl
  rw [toList_sqliteConnectionUrl hmemory, stripPrefix_append, Option.bind_some, hencode,
    Text.splitOnce_append (mt question_mem_encodeBlanks.mp hbefore)]
  rfl

/-- What is opened, where nothing cuts the path. -/
theorem readSqliteUrl_of_notMem {path : String} (hmemory : isMemoryPath path = false)
    (h : '?' ∉ path.toList) :
    readSqliteUrl (sqliteConnectionUrl path) =
      (Utf8.fromUtf8 (Percent.decode (Percent.encodeBlanks path.toList))).map
        fun filename => ⟨String.ofList filename, "mode=rwc"⟩ :=
  readSqliteUrl_url hmemory rfl h

theorem eq_utf8_of_filename {bytes : List UInt8} {options options' filename : String}
    (h : ((Utf8.fromUtf8 bytes).map fun name => (⟨String.ofList name, options⟩ : SqliteOptions)) =
      some ⟨filename, options'⟩) : bytes = Text.utf8 filename.toList := by
  obtain ⟨name, hname, heq⟩ := Option.map_eq_some_iff.mp h
  obtain ⟨rfl, -⟩ := SqliteOptions.mk.inj heq
  rw [String.toList_ofList]
  exact Utf8.fromUtf8_eq_some.mp hname

/-- The database that is opened is the configured file exactly when the path is no other spelling of
`:memory:`, has no `?` and no percent escape. -/
theorem sqlite_url_names_file_iff (path : String) :
    NamesFile path ↔
      isMemoryPath path = false ∧ '?' ∉ path.toList ∧ Percent.hasEscape path.toList = false := by
  constructor
  · rintro ⟨hread, -⟩
    have hmemory : isMemoryPath path = false := by
      by_contra hmemory
      have hurl : sqliteConnectionUrl path = "sqlite::memory:" := if_pos (eq_true_of_ne_false hmemory)
      have hnone : readSqliteUrl "sqlite::memory:" = none := by decide
      rw [hurl, hnone] at hread
      cases hread
    have hquestion : '?' ∉ path.toList := by
      intro hmem
      obtain ⟨before, after, hpath, hbefore⟩ := List.eq_append_cons_of_mem hmem
      have hcut : path.toList ++ "?mode=rwc".toList = before ++ '?' :: (after ++ "?mode=rwc".toList) := by
        rw [hpath, List.append_assoc, List.cons_append]
      rw [readSqliteUrl_url hmemory hcut hbefore] at hread
      -- the piece before the mark cannot decode to the whole path
      have hbytes := eq_utf8_of_filename hread
      have hle := (Percent.length_decode_encodeBlanks before).1
      have hutf8 : (Text.utf8 path.toList).length =
          (Text.utf8 before).length + (Text.utf8 ('?' :: after)).length := by
        unfold Text.utf8
        rw [hpath, List.flatMap_append, List.length_append]
      have hpos : 0 < (Text.utf8 ('?' :: after)).length := by
        show 0 < ([63] ++ Text.utf8 after).length
        rw [List.length_append]
        exact Nat.lt_of_lt_of_le Nat.zero_lt_one (Nat.le_add_right _ _)
      rw [hbytes] at hle
      omega
    refine ⟨hmemory, hquestion, ?_⟩
    rw [readSqliteUrl_of_notMem hmemory hquestion] at hread
    exact (Percent.decode_encodeBlanks_eq_iff _).mp (eq_utf8_of_filename hread)
  · rintro ⟨hmemory, hquestion, hescape⟩
    have hread : readSqliteUrl (sqliteConnectionUrl path) = some ⟨path, "mode=rwc"⟩ := by
      rw [readSqliteUrl_of_notMem hmemory hquestion, Percent.decode_encodeBlanks hescape,
        Utf8.fromUtf8_eq_some.mpr rfl, Option.map_some, String.ofList_toList]
    refine ⟨hread, fun fs opened hopened hcreated parent hparent => ?_⟩
    obtain rfl := Option.some.inj (hread.symm.trans hopened)
    unfold ensureSqliteParentDir at hcreated
    rw [if_neg (ne_true_of_eq_false hmemory), hparent] at hcreated
    exact external_eq_ok.mp hcreated

/-- A file whose name has an escape, one whose name has a `?`, and another spelling of `:memory:`. -/
theorem sqlite_url_names_other_file :
    readSqliteUrl (sqliteConnectionUrl "./data/100%25.sqlite") = some ⟨"./data/100%.sqlite", "mode=rwc"⟩ ∧
    readSqliteUrl (sqliteConnectionUrl "./data/what?.sqlite") = some ⟨"./data/what", ".sqlite?mode=rwc"⟩ ∧
    sqliteConnectionUrl ":memory:/" = "sqlite::memory:" ∧ ¬ NamesFile "./data/100%25.sqlite" := by
  have hread : readSqliteUrl (sqliteConnectionUrl "./data/100%25.sqlite") =
      some ⟨"./data/100%.sqlite", "mode=rwc"⟩ := by decide
  refine ⟨hread, by decide, by decide, ?_⟩
  rintro ⟨hfile, -⟩
  rw [hread] at hfile
  exact absurd hfile (by decide)

end KidProxy
