import Mathlib.Data.List.DropRight
/-!
# The texts of URLs

The record that the URL standard's parser makes of a text with a special scheme, and the text that the
record is serialised to. Of the parser only its laws are known here: a serialised record is parsed to
itself, and a path loses an empty segment at its end with the slash before it.

A text that is stripped of its trailing slashes may lose several empty segments, and then the slash of
the root. It is still parsed, and what it is parsed to is serialised to the same text without trailing
slashes.
-/

namespace CashMesh.Lib

/-- The record of a URL with a special scheme. The port and the host are kept as they are written. -/
structure Url where
  scheme : List Char
  username : List Char
  password : List Char
  host : List Char
  port : Option (List Char)
  path : List (List Char)
  query : Option (List Char)
  fragment : Option (List Char)
deriving DecidableEq

namespace Url

/-! ### Serialisation -/

/-- The credentials with their sign. -/
def credentials (url : Url) : List Char :=
  if url.username = [] ∧ url.password = [] then []
  else url.username ++ (if url.password = [] then [] else ':' :: url.password) ++ ['@']

/-- What stands before the path. -/
def origin (url : Url) : List Char :=
  url.scheme ++ "://".toList ++ url.credentials ++ url.host ++ url.port.elim [] (':' :: ·)

def pathText (path : List (List Char)) : List Char :=
  path.flatMap ('/' :: ·)

/-- What stands behind the path. -/
def suffix (url : Url) : List Char :=
  url.query.elim [] ('?' :: ·) ++ url.fragment.elim [] ('#' :: ·)

def serialize (url : Url) : List Char :=
  url.origin ++ pathText url.path ++ url.suffix

/-- A text without its trailing slashes. -/
def stripSlashes (text : List Char) : List Char :=
  text.rdropWhile (· = '/')

/-- The visible characters of ASCII, to which the parser encodes all others. -/
def isVisible (c : Char) : Bool :=
  0x21 ≤ c.toNat && c.toNat ≤ 0x7e

/-- What the parser establishes of a record. -/
structure WellFormed (url : Url) : Prop where
  host : url.host ≠ [] ∧ '/' ∉ url.host
  port : ∀ port ∈ url.port, port ≠ [] ∧ '/' ∉ port
  path : url.path ≠ []
  segments : ∀ segment ∈ url.path, '/' ∉ segment
  visible : ∀ c ∈ url.serialize, isVisible c = true

/-- The laws of a parser on the texts with a special scheme. -/
structure ParserLaws (parse : List Char → Option Url) (Special : List Char → Prop) : Prop where
  wellFormed : ∀ {text url}, parse text = some url → Special url.scheme → url.WellFormed
  serialized : ∀ {text url}, parse text = some url → Special url.scheme →
    parse url.serialize = some url
  /-- A path that ends with an empty segment is the path of a shorter text with one segment more. -/
  shorter : ∀ {text url path}, parse text = some url → Special url.scheme →
    url.path = path ++ [[]] → path ≠ [] → ∃ text', parse text' = some { url with path }
  /-- A special URL without a path has the path of one empty segment. -/
  rootless : ∀ {text url}, parse text = some url → Special url.scheme → url.path = [[]] →
    parse (url.origin ++ url.suffix) = some url

/-! ### Trailing slashes -/

theorem stripSlashes_concat_slash (text : List Char) :
    stripSlashes (text ++ ['/']) = stripSlashes text :=
  List.rdropWhile_concat_pos _ _ _ (by decide)

theorem stripSlashes_of_last {text : List Char} {c : Char} (hc : c ≠ '/') :
    stripSlashes (text ++ [c]) = text ++ [c] :=
  List.rdropWhile_concat_neg _ _ _ (by simpa using hc)

theorem stripSlashes_append {text part : List Char} (hpart : part ≠ []) (hslash : '/' ∉ part) :
    stripSlashes (text ++ part) = text ++ part := by
  obtain ⟨init, last, rfl⟩ := part.eq_nil_or_concat'.resolve_left hpart
  rw [← List.append_assoc]
  apply stripSlashes_of_last
  intro hlast
  apply hslash
  simp [hlast]

theorem pathText_concat (path : List (List Char)) (segment : List Char) :
    pathText (path ++ [segment]) = pathText path ++ '/' :: segment := by
  simp [pathText]

theorem WellFormed.stripSlashes_origin {url : Url} (h : url.WellFormed) :
    stripSlashes url.origin = url.origin := by
  unfold origin
  cases hport : url.port with
  | none =>
      simp only [Option.elim_none, List.append_nil]
      exact stripSlashes_append h.host.1 h.host.2
  | some port =>
      obtain ⟨-, hslash⟩ := h.port port hport
      apply stripSlashes_append
      · simp
      · simpa using hslash

variable {parse : List Char → Option Url} {Special : List Char → Prop}

/-- Without a query and a fragment, the serialisation is parsed without its trailing slashes too, and
the result has the same normal form. -/
theorem ParserLaws.parse_stripSlashes_of_suffix (laws : ParserLaws parse Special) {text : List Char} {url : Url}
    (hparse : parse text = some url) (hspecial : Special url.scheme) (hsuffix : url.suffix = []) :
    ∃ path, parse (stripSlashes url.serialize) = some { url with path } ∧
      stripSlashes { url with path }.serialize = stripSlashes url.serialize := by
  -- The induction takes the empty segments off the end of the path.
  induction hlength : url.path.length generalizing text url with
  | zero =>
      have hpath := (laws.wellFormed hparse hspecial).path
      exact absurd (List.length_eq_zero_iff.mp hlength) hpath
  | succ n ih =>
      have hwell := laws.wellFormed hparse hspecial
      obtain ⟨path, segment, hpath⟩ := url.path.eq_nil_or_concat'.resolve_left hwell.path
      have hserialize : url.serialize = url.origin ++ pathText path ++ '/' :: segment := by
        rw [serialize, hsuffix, hpath, pathText_concat, List.append_nil, List.append_assoc]
      by_cases hsegment : segment = []
      · subst hsegment
        have hstrip : stripSlashes url.serialize = stripSlashes (url.origin ++ pathText path) := by
          rw [hserialize, stripSlashes_concat_slash]
        by_cases hroot : path = []
        · subst hroot
          have hrootless := laws.rootless hparse hspecial hpath
          rw [hsuffix, List.append_nil] at hrootless
          refine ⟨url.path, ?_, rfl⟩
          rw [hstrip, pathText, List.flatMap_nil, List.append_nil, hwell.stripSlashes_origin]
          exact hrootless
        · obtain ⟨text', hshorter⟩ := laws.shorter hparse hspecial hpath hroot
          have hsame : stripSlashes { url with path }.serialize = stripSlashes url.serialize := by
            rw [hstrip, serialize, show suffix { url with path } = [] from hsuffix, List.append_nil]
            rfl
          rw [← hsame]
          apply ih hshorter hspecial hsuffix
          rw [hpath, List.length_append, List.length_singleton] at hlength
          exact Nat.succ.inj hlength
      · refine ⟨url.path, ?_, rfl⟩
        have hslash : '/' ∉ segment := hwell.segments segment (by simp [hpath])
        have hkept : stripSlashes url.serialize = url.serialize := by
          rw [hserialize, show '/' :: segment = ['/'] ++ segment from rfl, ← List.append_assoc]
          exact stripSlashes_append hsegment hslash
        rw [hkept]
        exact laws.serialized hparse hspecial

/-- A serialisation is parsed without its trailing slashes, unless a query or a fragment holds one,
and the result has the same normal form. -/
theorem ParserLaws.parse_stripSlashes (laws : ParserLaws parse Special) {text : List Char} {url : Url}
    (hparse : parse text = some url) (hspecial : Special url.scheme) (hsuffix : '/' ∉ url.suffix) :
    ∃ path, parse (stripSlashes url.serialize) = some { url with path } ∧
      stripSlashes { url with path }.serialize = stripSlashes url.serialize := by
  by_cases hnone : url.suffix = []
  · exact laws.parse_stripSlashes_of_suffix hparse hspecial hnone
  · have hkept : stripSlashes url.serialize = url.serialize := stripSlashes_append hnone hsuffix
    refine ⟨url.path, ?_, rfl⟩
    rw [hkept]
    exact laws.serialized hparse hspecial

theorem mem_of_mem_stripSlashes {text : List Char} {c : Char} (h : c ∈ stripSlashes text) :
    c ∈ text :=
  (List.rdropWhile_prefix _ text).subset h

theorem stripSlashes_ne_nil {text : List Char} {c : Char} (hmem : c ∈ text) (hc : c ≠ '/') :
    stripSlashes text ≠ [] := by
  intro hnil
  have hall := List.rdropWhile_eq_nil_iff.mp hnil c hmem
  exact hc (by simpa using hall)

end Url

end CashMesh.Lib
