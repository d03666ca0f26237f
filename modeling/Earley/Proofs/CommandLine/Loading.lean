/-
Earley.Proofs.CommandLine.Loading — what comes of the path of a grammar file.

A path leads to no file, to bytes that are no text, or to a text. The text is refused, breaks
loading down by a null character in a literal, or is read, and then there is a language.

- `normalizePath_of_notMem`: a name without slashes is as short as it can be.
- `exists_readText`, `readText_of_noFile`, `readText_of_noText`: what reading a file comes to.
- `load_of_noFile`, `load_of_noText`, `load_of_nullCharacter`, `load_of_refused`, `load_of_read`:
  what loading a grammar comes to.
-/
import Earley.CommandLine.Run
import Earley.Proofs.Text.Utf8
import Mathlib.Data.String.Basic

namespace Earley.CommandLine

open Text.Utf8 (IsText)

/-! ## Paths -/

/-- Cutting a text goes on to its end where nothing that is left is a slash. -/
theorem splitOnAux_of_notMem {rest : List Char} (h : '/' ∉ rest) (front : List Char) :
    String.splitOnAux (.ofList (front ++ rest)) "/" 0 ⟨String.utf8Len front⟩ 0 [] =
      [.ofList (front ++ rest)] := by
  induction rest generalizing front with
  | nil =>
    have hend := (String.atEnd_of_valid front []).2 rfl
    have hwhole := String.extract_of_valid [] front []
    simp only [List.nil_append, String.utf8Len_nil, Nat.zero_add] at hwhole
    rw [String.splitOnAux, if_pos hend, List.reverse_singleton, List.append_nil]
    rw [List.append_nil] at hwhole
    exact congrArg (fun s => [s]) hwhole
  | cons c rest ih =>
    obtain ⟨hc, hrest⟩ := not_or.1 (mt List.mem_cons.2 h)
    have hend : ¬ String.Pos.Raw.atEnd (.ofList (front ++ c :: rest)) ⟨String.utf8Len front⟩ :=
      mt (String.atEnd_of_valid front (c :: rest)).1 (List.cons_ne_nil c rest)
    have hget : (String.Pos.Raw.get (.ofList (front ++ c :: rest)) ⟨String.utf8Len front⟩ ==
        String.Pos.Raw.get "/" 0) ≠ true := by
      have hslash : String.Pos.Raw.get "/" 0 = '/' := by decide +kernel
      rw [String.get_of_valid, hslash]
      simpa using Ne.symm hc
    have hfront : (⟨String.utf8Len (front ++ [c])⟩ : String.Pos.Raw) =
        ⟨String.utf8Len front + c.utf8Size⟩ := by simp
    have hnext := ih hrest (front ++ [c])
    rw [hfront, List.append_assoc, List.singleton_append] at hnext
    rw [String.splitOnAux, if_neg hend, if_neg hget]
    change String.splitOnAux _ "/" 0 (String.Pos.Raw.next _ ⟨String.utf8Len front⟩) 0 [] = _
    rw [String.next_of_valid, hnext]

theorem components_of_notMem {path : String} (h : '/' ∉ path.toList) :
    components path = [path] := by
  have hsplit := splitOnAux_of_notMem h []
  rw [List.nil_append, String.ofList_toList] at hsplit
  rw [components, String.splitOn, if_neg (by decide)]
  exact hsplit

/-- A name without slashes is as short as it can be. -/
theorem normalizePath_of_notMem {path : String} (h : '/' ∉ path.toList) (hne : path ≠ "")
    (hdot : path ≠ ".") : normalizePath path = path := by
  have hslashes : path.toList.takeWhile (· == '/') = [] := by
    cases hcs : path.toList with
    | nil => rfl
    | cons c cs =>
      have hc : c ≠ '/' := by
        rintro rfl
        simp [hcs] at h
      simp [hc]
  simp [normalizePath, components_of_notMem h, hslashes, hne, hdot]

theorem normalizePath_g : normalizePath "g" = "g" :=
  normalizePath_of_notMem (by decide) (by decide) (by decide)

/-! ## Files -/

variable {files : Files} {bytes : List UInt8} {path : String} {src : List Char} {l : Language}

/-- There is nothing to read at the path. -/
def NoFile (files : Files) (path : String) : Prop :=
  '\x00' ∉ path.toList ∧ ∃ problem, files path = .error problem

/-- No text can be read at the path: it cannot be a path, or the bytes that it leads to are not
those of a text. -/
def NoText (files : Files) (path : String) : Prop :=
  '\x00' ∈ path.toList ∨ ∃ bytes, files path = .ok bytes ∧ ¬ IsText bytes

theorem readFile_of_ok (hnull : '\x00' ∉ path.toList) (hfile : files path = .ok bytes) :
    readFile files path = .ok bytes := by
  rw [readFile, if_neg hnull, hfile]

theorem readFile_of_noFile (h : NoFile files path) :
    ∃ problem, readFile files path = .error (.file problem path) := by
  obtain ⟨hnull, problem, hproblem⟩ := h
  exact ⟨problem, by rw [readFile, if_neg hnull, hproblem]⟩

theorem readFile_of_null (hnull : '\x00' ∈ path.toList) :
    readFile files path = .error (.breakdown .nullInPath) := if_pos hnull

/-- Where there is a file with a text, it can be read. -/
theorem exists_isText (hfile : ¬ NoFile files path) (htext : ¬ NoText files path) :
    ∃ bytes, readFile files path = .ok bytes ∧ IsText bytes := by
  obtain ⟨hnull, htext⟩ := not_or.1 htext
  cases hbytes : files path with
  | error problem => exact absurd ⟨hnull, problem, hbytes⟩ hfile
  | ok bytes =>
    have hgood : IsText bytes := by_contra fun h => htext ⟨bytes, hbytes, h⟩
    exact ⟨bytes, readFile_of_ok hnull hbytes, hgood⟩

theorem readText_of_noFile (h : NoFile files path) :
    ∃ problem, readText files path = .error (.file problem path) := by
  obtain ⟨problem, hread⟩ := readFile_of_noFile h
  exact ⟨problem, by rw [readText, hread]; rfl⟩

theorem readText_of_noText (h : NoText files path) :
    ∃ b, readText files path = .error (.breakdown b) := by
  by_cases hnull : '\x00' ∈ path.toList
  · exact ⟨_, by rw [readText, readFile_of_null hnull]; rfl⟩
  · obtain ⟨bytes, hfile, htext⟩ := h.resolve_left hnull
    rw [← Text.Utf8.decode_fault_eq_none_iff] at htext
    rcases hdecode : Text.Utf8.decode bytes with ⟨cs, _ | f⟩
    · simp [hdecode] at htext
    · refine ⟨.undecodable f, ?_⟩
      rw [readText, readFile_of_ok hnull hfile]
      simp only [bind, Except.bind, hdecode]
      rfl

theorem exists_readText (hfile : ¬ NoFile files path) (htext : ¬ NoText files path) :
    ∃ src, readText files path = .ok src := by
  obtain ⟨bytes, hread, cs, rfl⟩ := exists_isText hfile htext
  refine ⟨Text.unifyNewlines cs, ?_⟩
  rw [readText, hread]
  simp only [bind, Except.bind, Text.Utf8.decode_eq_ok_iff.2 rfl]
  rfl

/-! ## Grammars -/

section

variable [Regex.Engine] [GrammarFile.Literal.Decoder]

theorem load_of_noFile (h : NoFile files (normalizePath path)) :
    ∃ f, load files path = .error f ∧ f.report.ending = .code 2 := by
  obtain ⟨problem, hread⟩ := readText_of_noFile h
  exact ⟨_, by rw [load, hread]; rfl, rfl⟩

theorem load_of_noText (h : NoText files (normalizePath path)) :
    ∃ b, load files path = .error (.breakdown b) := by
  obtain ⟨b, hread⟩ := readText_of_noText h
  exact ⟨b, by rw [load, hread]; rfl⟩

section

variable (hsrc : readText files (normalizePath path) = .ok src)
include hsrc

theorem load_of_nullCharacter (h : GrammarFile.read src = .error (.literal .nullCharacter)) :
    load files path = .error (.breakdown .nullInLiteral) := by
  simp only [load, hsrc, Language.read, bind, Except.bind, h]
  rfl

theorem load_of_refused {e : GrammarFile.Error} (h : GrammarFile.read src = .error e)
    (he : e ≠ .literal .nullCharacter) : load files path = .error (.grammar (e.message src)) := by
  simp only [load, hsrc, Language.read, bind, Except.bind, h, Except.map]
  rfl

theorem load_of_read {file : GrammarFile} (h : GrammarFile.read src = .ok file) :
    load files path = .ok (.ofFile file) := by
  simp only [load, hsrc, Language.read, bind, Except.bind, h]
  rfl

end

/-- A language that has been loaded is that of a grammar file that is read. -/
theorem exists_read_of_load (h : load files path = .ok l) :
    ∃ src file, GrammarFile.read src = .ok file ∧ l = .ofFile file := by
  cases hsrc : readText files (normalizePath path) with
  | error f =>
    rw [load, hsrc] at h
    cases h
  | ok src =>
    cases hread : GrammarFile.read src with
    | ok file => exact ⟨src, file, hread, Except.ok.inj (h.symm.trans (load_of_read hsrc hread))⟩
    | error e =>
      by_cases he : e = .literal .nullCharacter
      · cases h.symm.trans (load_of_nullCharacter hsrc (he ▸ hread))
      · cases h.symm.trans (load_of_refused hsrc hread he)

end

/-! ## A small grammar -/

/-- A grammar file `g` for the word `a`. -/
def letterFiles : Files := .ofList [("g", .ok (Text.Utf8.encode "S:\"a\";".toList))]

/-- What is read from it. -/
def letterFile : GrammarFile := ⟨[], [], ["a"], [⟨"S", [.terminal "a"]⟩], some "S"⟩

theorem load_letterFiles : load letterFiles "g" = .ok (.ofFile letterFile) := by
  have hsrc : readText letterFiles (normalizePath "g") = .ok "S:\"a\";".toList := by
    rw [normalizePath_g]
    decide +kernel
  exact load_of_read hsrc (by decide +kernel)

end Earley.CommandLine
