import ProxyFleet.Proofs.FileNames
import ProxyFleet.SideFile

/-!
# Files that share a path

Which names lead to one file.  A side file is called what its record calls it, with an extension
that is not repeated where the name already has it, so that two names may mean one file; the files of
different extensions never meet.

**One extension.**  `configPath_eq_ite` says where the file of a name is.  Names share a file if they
differ by the extension at most (`configPath_inj_iff`).

**Different extensions.**  The end of a path tells what kind of file it is of (`ending_configPath`).

**Values of tests.**  A digest is of one length, so that the name in front of it can be told
(`filePath_inj_iff`).

Main statement: `shared_paths`.
-/

namespace ProxyFleet

namespace Digest

/-- Bytes have two digits each. -/
lemma length_hex (bytes : List UInt8) : (hex bytes).toList.length = 2 * bytes.length := by
  rw [hex, String.toList_ofList, hexChars, List.length_flatMap]
  simp [mul_comm]

/-- A digest has thirty-two digits. -/
lemma length_md5Hex (s : String) : (md5Hex s).toList.length = 32 := by
  simp [md5Hex, length_hex, md5]

end Digest

namespace FileName

/-! ## One extension -/

/-- Whether a name already has an extension. -/
def Extended (ext name : String) : Prop := ("." ++ ext).toList <:+ name.toList

instance (ext name : String) : Decidable (Extended ext name) :=
  inferInstanceAs (Decidable (("." ++ ext).toList <:+ name.toList))

lemma extended_iff {ext name : String} : Extended ext name ↔ ∃ stem, name = stem ++ ("." ++ ext) := by
  constructor
  · rintro ⟨stem, hstem⟩
    refine ⟨String.ofList stem, String.toList_inj.1 ?_⟩
    rw [String.toList_append, String.toList_ofList, hstem]
  · rintro ⟨stem, rfl⟩
    exact ⟨stem.toList, String.toList_append.symm⟩

/-- A name with its extension. -/
def extend (ext name : String) : String := if Extended ext name then name else name ++ "." ++ ext

/-- **Where the file of a name is**: in the directory, under the name with its extension. -/
lemma configPath_eq_extend (name ext : String) :
    configPath name ext = inConfigDir (extend ext name) := by
  rw [configPath, extend]
  cases h : Text.withoutEnd ("." ++ ext) name with
  | none =>
    have hnot : ¬ Extended ext name := by
      intro hext
      obtain ⟨stem, hstem⟩ := extended_iff.1 hext
      rw [Text.withoutEnd_eq_some_iff.2 hstem] at h
      cases h
    rw [if_neg hnot, Option.getD_none]
  | some stem =>
    have hstem := Text.withoutEnd_eq_some_iff.1 h
    rw [if_pos (extended_iff.2 ⟨stem, hstem⟩), Option.getD_some, String.append_assoc, ← hstem]

/-- **Names with one extension** become the same if they are, or if one of them is the other one with
the extension that this one lacks. -/
lemma extend_inj_iff {ext a b : String} : extend ext a = extend ext b ↔
    a = b ∨ (a = b ++ "." ++ ext ∧ ¬ Extended ext b) ∨ (b = a ++ "." ++ ext ∧ ¬ Extended ext a) := by
  have happend : ∀ c : String, Extended ext (c ++ "." ++ ext) :=
    fun c => extended_iff.2 ⟨c, String.append_assoc⟩
  have hcancel : a ++ "." ++ ext = b ++ "." ++ ext ↔ a = b := by
    rw [String.append_left_inj, String.append_left_inj]
  rw [extend, extend]
  split_ifs with ha hb hb
  · simp [ha, hb]
  · have hne : a ≠ b := fun h => hb (h ▸ ha)
    simp [hne, ha, hb]
  · have hne : a ≠ b := fun h => ha (h ▸ hb)
    simp [hne, ha, hb, eq_comm]
  · have hleft : a ≠ b ++ "." ++ ext := fun h => ha (h ▸ happend b)
    have hright : b ≠ a ++ "." ++ ext := fun h => hb (h ▸ happend a)
    simp only [hcancel, hleft, hright, false_and, or_false]

/-! ## Different extensions -/

/-- The extensions of the files that are called after a record's declarations. -/
def declaredExtensions : List String := ["crt", "http", "map", "ocsp"]

/-- The end of a path tells the extension. -/
lemma ending_extend {ext : String} (h : ext ∈ declaredExtensions) (name : String) :
    ending (extend ext name) = ending ("." ++ ext) := by
  have hlong : ∀ ext ∈ declaredExtensions, 4 ≤ ("." ++ ext).toList.length := by decide
  rw [extend]
  split_ifs with hext
  · obtain ⟨stem, rfl⟩ := extended_iff.1 hext
    exact ending_append (hlong ext h) stem
  · rw [String.append_assoc]
    exact ending_append (hlong ext h) name

/-- A file with one of these extensions is none whose name ends otherwise. -/
lemma configPath_ne {ext : String} (h : ext ∈ declaredExtensions) (name : String) {other : String}
    (hother : ending ("." ++ ext) ≠ ending other) : configPath name ext ≠ inConfigDir other := by
  rw [configPath_eq_extend, Ne, inConfigDir_inj]
  intro heq
  exact hother ((ending_extend h name).symm.trans (congrArg ending heq))

/-- **Files of different extensions** have different paths. -/
lemma configPath_ne_configPath {ext ext' : String} (h : ext ∈ declaredExtensions)
    (h' : ext' ∈ declaredExtensions) (hne : ext ≠ ext') (a b : String) :
    configPath a ext ≠ configPath b ext' := by
  have hapart : ∀ ext ∈ declaredExtensions, ∀ ext' ∈ declaredExtensions, ext ≠ ext' →
      ending ("." ++ ext) ≠ ending ("." ++ ext') := by decide
  rw [configPath_eq_extend b]
  refine configPath_ne h a ?_
  rw [ending_extend h' b]
  exact hapart ext h ext' h' hne

/-! ## Values of tests -/

/-- **Two tests have one file of values** if they have one name and their values one digest. -/
lemma filePath_inj_iff {a b : Section.Acl} : a.filePath = b.filePath ↔
    a.name = b.name ∧ Digest.md5Hex a.fileContent = Digest.md5Hex b.fileContent := by
  constructor
  · intro h
    rw [Section.Acl.filePath, Section.Acl.filePath, inConfigDir_inj, String.append_left_inj] at h
    have hchars := congrArg String.toList h
    simp only [String.toList_append] at hchars
    -- the digests are of one length, so that what stands before them can be compared
    obtain ⟨hfront, hdigest⟩ := List.append_inj' hchars (by rw [Digest.length_md5Hex,
      Digest.length_md5Hex])
    have hname := List.append_cancel_left (List.append_cancel_right hfront)
    exact ⟨String.toList_inj.1 hname, String.toList_inj.1 hdigest⟩
  · rintro ⟨hname, hdigest⟩
    rw [Section.Acl.filePath, Section.Acl.filePath, hname, hdigest]

/-! ## All of them -/

/-- **Which names share a file.**  A name has its extension once, and no more than that makes
different names one: names share a path if they are equal, or if one is the other with the
extension that this one lacks.  Files of different extensions share none, nor do they with a file of
values, of variables or of the daemon; and two tests do if their names and their digests agree. -/
theorem shared_paths :
    (∀ name ext, configPath name ext =
      configDir ++ "/" ++ if Extended ext name then name else name ++ "." ++ ext) ∧
    (∀ ext a b, configPath a ext = configPath b ext ↔ a = b ∨
      (a = b ++ "." ++ ext ∧ ¬ Extended ext b) ∨ (b = a ++ "." ++ ext ∧ ¬ Extended ext a)) ∧
    (∀ ext ∈ declaredExtensions, ∀ name,
      (∀ ext' ∈ declaredExtensions, ext ≠ ext' → ∀ other,
        configPath name ext ≠ configPath other ext') ∧
      (∀ acl : Section.Acl, configPath name ext ≠ acl.filePath) ∧
      configPath name ext ≠ SideFile.envPath ∧ configPath name ext ≠ SideFile.syslogPath) ∧
    ∀ a b : Section.Acl, a.filePath = b.filePath ↔ a.name = b.name ∧
      Digest.md5Hex (String.intercalate "\n" a.values) =
        Digest.md5Hex (String.intercalate "\n" b.values) := by
  have hvalues : ∀ ext ∈ declaredExtensions, ending ("." ++ ext) ≠ ending ".txt" := by decide
  have henv : ∀ ext ∈ declaredExtensions, ending ("." ++ ext) ≠ ending "env" := by decide
  have hsyslog : ∀ ext ∈ declaredExtensions, ending ("." ++ ext) ≠ ending "rsyslog.conf" := by
    decide
  refine ⟨configPath_eq_extend, fun ext a b => ?_, fun ext h name => ⟨?_, ?_, ?_, ?_⟩,
    fun a b => filePath_inj_iff⟩
  · rw [configPath_eq_extend, configPath_eq_extend, inConfigDir_inj, extend_inj_iff]
  · exact fun ext' h' hne other => configPath_ne_configPath h h' hne name other
  · intro acl
    refine configPath_ne h name ?_
    have hend : ∀ stem, ending (stem ++ ".txt") = ending ".txt" := ending_append (by decide)
    rw [hend]
    exact hvalues ext h
  · exact configPath_ne h name (henv ext h)
  · exact configPath_ne h name (hsyslog ext h)

/-- A certificate and an error page of one name, and a name that repeats its extension. -/
theorem shared_paths_site : "crt" ∈ declaredExtensions ∧ "http" ∈ declaredExtensions ∧
    configPath "site" "crt" ≠ configPath "site" "http" ∧
    configPath "site" "crt" = configPath "site.crt" "crt" ∧
    configPath "site.crt" "crt" ≠ configPath "site.crt.crt" "crt" := by
  obtain ⟨-, hshared, hapart, -⟩ := shared_paths
  refine ⟨by decide, by decide, ?_, ?_, ?_⟩
  · exact (hapart "crt" (by decide) "site").1 "http" (by decide) (by decide) "site"
  · exact (hshared "crt" "site" "site.crt").2 (by decide)
  · rw [Ne, hshared]
    decide

end FileName

end ProxyFleet
