import CashMesh.Acquirer.KeysetSnapshots
import CashMesh.Lib.Url
/-!
# Endpoints

The URLs of mints and transports in the form in which they are stored and signed. The bound of a URL is
checked on the text that comes in, and the URL parser writes other characters than those of ASCII with
three for each of their bytes and a host in Punycode, so the normal form of a text within the bound can
be beyond it. It is its own normal form exactly when it is not.
-/

namespace CashMesh.Acquirer

open CashMesh.Lib

/-! ### Normal forms -/

/-- `CashuPaymentRequestErrorCode`. -/
inductive CashuPaymentRequestErrorCode where
  | advisoryPolicyUnsupported
  | duplicateMint
  | duplicateOperator
  | emptyOperatorSet
  | encodingFailed
  | invalidEndpoint
  | invalidIssuedAt
  | invalidInvoice
  | invalidMintPolicy
  | invalidOperatorPolicy
  | invalidOperatorSet
  | invalidRequest
  | invoiceExpired
  | operatorLimitExceeded
  | operatorNotAccepted
  | requestBeforeInvoice
  | requestTooLarge
deriving DecidableEq

/-- `CashuPaymentRequestError`. -/
structure CashuPaymentRequestError where
  code : CashuPaymentRequestErrorCode
  message : String
deriving DecidableEq

/-- What a URL is the endpoint of. -/
inductive EndpointKind where
  | mint
  | transport
deriving DecidableEq

def EndpointKind.text : EndpointKind → String
  | mint => "mint"
  | transport => "transport"

def maxEndpointLength : Nat := 512

/-- `normalizeHttpsEndpoint`. -/
def normalizeHttpsEndpoint (cashuTs : CashuTs) (value : String) (kind : EndpointKind) :
    Except CashuPaymentRequestError String := do
  ensure (value ≠ "" ∧ utf16Length value ≤ maxEndpointLength ∧ isTrimmed value = true)
    ⟨.invalidEndpoint, kind.text ++ " URL has an invalid length or surrounding whitespace."⟩
  let endpoint ← orFail (cashuTs.parseUrl value)
    ⟨.invalidEndpoint, kind.text ++ " URL is invalid."⟩
  ensure
    (endpoint.protocol = "https:" ∧ endpoint.username = "" ∧ endpoint.password = "" ∧
      endpoint.search = "" ∧ endpoint.hash = "")
    ⟨.invalidEndpoint,
      kind.text ++ " URL must use HTTPS without credentials, query parameters, or fragments."⟩
  match kind with
  | .mint =>
      orFail (cashuTs.normalizeMintUrl endpoint.href)
        ⟨.invalidEndpoint, kind.text ++ " URL is invalid."⟩
  | .transport => return endpoint.href

/-! ### The parser -/

/-- A part of a URL as its property of `URL` has it: nothing where it is absent or empty. -/
def urlPart (mark : Char) : Option (List Char) → String
  | none => ""
  | some [] => ""
  | some (c :: text) => String.ofList (mark :: c :: text)

/-- The properties of `URL` for a record. -/
def urlEndpoint (url : Url) : MintEndpoint where
  protocol := String.ofList (url.scheme ++ [':'])
  username := String.ofList url.username
  password := String.ofList url.password
  search := urlPart '?' url.query
  hash := urlPart '#' url.fragment
  href := String.ofList url.serialize

/-- `new URL` follows the URL standard, and of the URLs that `normalizeMintUrl` takes it strips the
trailing slashes, without which it takes them too. -/
structure CashuTs.ReadsUrls (cashuTs : CashuTs) (parse : List Char → Option Url) : Prop where
  laws : Url.ParserLaws parse (· = "https".toList)
  parseUrl : ∀ value, cashuTs.parseUrl value = (parse value.toList).map urlEndpoint
  normalizeMintUrl : ∀ {text url mintUrl}, parse text = some url →
    cashuTs.normalizeMintUrl (String.ofList url.serialize) = some mintUrl →
      mintUrl = String.ofList (Url.stripSlashes url.serialize)
  takesAgain : ∀ {text url again mintUrl}, parse text = some url →
    cashuTs.normalizeMintUrl (String.ofList url.serialize) = some mintUrl →
      parse (Url.stripSlashes url.serialize) = some again →
        ∃ mintUrl', cashuTs.normalizeMintUrl (String.ofList again.serialize) = some mintUrl'

/-- The text of a URL in the normal form of an endpoint. -/
def EndpointKind.normalText (kind : EndpointKind) (url : Url) : List Char :=
  match kind with
  | mint => Url.stripSlashes url.serialize
  | transport => url.serialize

variable {cashuTs : CashuTs} {parse : List Char → Option Url} {url : Url}

theorem urlPart_eq_empty {mark : Char} {part : Option (List Char)} (h : urlPart mark part = "") :
    part = none ∨ part = some [] := by
  unfold urlPart at h
  split at h
  · exact .inl rfl
  · exact .inr rfl
  · case h_3 c text =>
    have hlist := congrArg String.toList h
    simp at hlist

theorem safe_urlEndpoint (h : (urlEndpoint url).Safe) :
    url.scheme = "https".toList ∧ '/' ∉ url.suffix := by
  refine ⟨?_, ?_⟩
  · have hprotocol := congrArg String.toList h.protocol
    rw [urlEndpoint, String.toList_ofList] at hprotocol
    exact @List.append_inj_left' _ _ [':'] "https".toList [':'] hprotocol rfl
  · unfold Url.suffix
    rcases urlPart_eq_empty h.search with hquery | hquery <;>
      rcases urlPart_eq_empty h.hash with hfragment | hfragment <;>
      rw [hquery, hfragment] <;> decide

theorem isTrimmedSpace_of_isVisible {c : Char} (h : Url.isVisible c = true) :
    isTrimmedSpace c = false := by
  simp only [Url.isVisible, Bool.and_eq_true, decide_eq_true_eq] at h
  simp [isTrimmedSpace]
  omega

theorem isTrimmed_of_visible {text : List Char} (h : ∀ c ∈ text, Url.isVisible c = true) :
    isTrimmed (String.ofList text) = true := by
  have hhead : text.head?.any isTrimmedSpace = false := by
    cases hlast : text.head? with
    | none => rfl
    | some c => exact isTrimmedSpace_of_isVisible (h c (List.mem_of_mem_head? hlast))
  have hlast : text.getLast?.any isTrimmedSpace = false := by
    cases hlast : text.getLast? with
    | none => rfl
    | some c => exact isTrimmedSpace_of_isVisible (h c (List.mem_of_getLast? hlast))
  rw [isTrimmed, String.toList_ofList, hhead, hlast]
  rfl

theorem utf16Length_of_visible {text : List Char} (h : ∀ c ∈ text, Url.isVisible c = true) :
    utf16Length (String.ofList text) = text.length := by
  rw [utf16Length, String.toList_ofList]
  induction text with
  | nil => rfl
  | cons c text ih =>
      have hc := h c (by simp)
      have hone : c.toNat < 0x10000 := by
        simp only [Url.isVisible, Bool.and_eq_true, decide_eq_true_eq] at hc
        omega
      rw [List.map_cons, List.sum_cons, if_pos hone, ih fun c hmem => h c (by simp [hmem]),
        List.length_cons, Nat.add_comm]

/-! ### The normal form of a normal form -/

theorem safe_of_path {path : List (List Char)} (h : (urlEndpoint url).Safe) :
    (urlEndpoint { url with path }).Safe :=
  ⟨h.protocol, h.username, h.password, h.search, h.hash⟩

theorem CashuTs.ReadsUrls.parse_normalText (h : cashuTs.ReadsUrls parse) (kind : EndpointKind)
    {text : List Char} (hparse : parse text = some url) (hsafe : (urlEndpoint url).Safe) :
    ∃ again, parse (kind.normalText url) = some again ∧ (urlEndpoint again).Safe ∧
      kind.normalText again = kind.normalText url := by
  obtain ⟨hscheme, hsuffix⟩ := safe_urlEndpoint hsafe
  cases kind with
  | mint =>
      obtain ⟨path, hagain, hsame⟩ := h.laws.parse_stripSlashes hparse hscheme hsuffix
      exact ⟨_, hagain, safe_of_path hsafe, hsame⟩
  | transport => exact ⟨url, h.laws.serialized hparse hscheme, hsafe, rfl⟩

theorem CashuTs.ReadsUrls.visible_normalText (h : cashuTs.ReadsUrls parse) (kind : EndpointKind)
    {text : List Char} (hparse : parse text = some url) (hsafe : (urlEndpoint url).Safe) :
    kind.normalText url ≠ [] ∧ ∀ c ∈ kind.normalText url, Url.isVisible c = true := by
  obtain ⟨hscheme, -⟩ := safe_urlEndpoint hsafe
  have hvisible := (h.laws.wellFormed hparse hscheme).visible
  have hfirst : 'h' ∈ url.serialize := by
    simp [Url.serialize, Url.origin, hscheme]
  cases kind with
  | mint =>
      refine ⟨Url.stripSlashes_ne_nil hfirst (by decide), ?_⟩
      intro c hc
      exact hvisible c (Url.mem_of_mem_stripSlashes hc)
  | transport => exact ⟨List.ne_nil_of_mem hfirst, hvisible⟩

/-- The text that an endpoint is given, if the library takes it. -/
def EndpointKind.form (cashuTs : CashuTs) (kind : EndpointKind) (endpoint : MintEndpoint) :
    Option String :=
  match kind with
  | mint => cashuTs.normalizeMintUrl endpoint.href
  | transport => some endpoint.href

theorem CashuTs.ReadsUrls.form_eq (h : cashuTs.ReadsUrls parse) {kind : EndpointKind}
    {text : List Char} {result : String} (hparse : parse text = some url)
    (hform : kind.form cashuTs (urlEndpoint url) = some result) :
    result = String.ofList (kind.normalText url) := by
  cases kind with
  | mint => exact h.normalizeMintUrl hparse hform
  | transport => exact (Option.some.inj hform).symm

/-- The normal form of an endpoint is parsed to an endpoint of the same normal form. -/
theorem CashuTs.ReadsUrls.form_again (h : cashuTs.ReadsUrls parse) {kind : EndpointKind}
    {text : List Char} {result : String} (hparse : parse text = some url)
    (hsafe : (urlEndpoint url).Safe) (hform : kind.form cashuTs (urlEndpoint url) = some result) :
    ∃ again, parse (kind.normalText url) = some again ∧ (urlEndpoint again).Safe ∧
      kind.form cashuTs (urlEndpoint again) = some result := by
  obtain ⟨again, hagain, hsafe', hsame⟩ := h.parse_normalText kind hparse hsafe
  refine ⟨again, hagain, hsafe', ?_⟩
  rw [h.form_eq hparse hform, ← hsame]
  cases kind with
  | mint =>
      obtain ⟨mintUrl, htaken⟩ := h.takesAgain hparse hform hagain
      obtain rfl : mintUrl = _ := h.normalizeMintUrl hagain htaken
      exact htaken
  | transport => rfl

/-- The checks that a text passes on the way to its normal form. -/
structure IsEndpoint (cashuTs : CashuTs) (value : String) (endpoint : MintEndpoint) : Prop where
  nonempty : value ≠ ""
  length : utf16Length value ≤ 512
  trimmed : isTrimmed value = true
  parsed : cashuTs.parseUrl value = some endpoint
  safe : endpoint.Safe

theorem normalizeCashuMintUrl_iff {value : String} {mintUrl : MintUrl} :
    normalizeCashuMintUrl cashuTs value = some mintUrl ↔
      ∃ endpoint, IsEndpoint cashuTs value endpoint ∧
        EndpointKind.mint.form cashuTs endpoint = some mintUrl := by
  rw [normalizeCashuMintUrl_eq_some]
  constructor
  · rintro ⟨⟨hnonempty, hlength, htrimmed⟩, endpoint, hparsed, hsafe, hform⟩
    exact ⟨endpoint, ⟨hnonempty, hlength, htrimmed, hparsed, hsafe⟩, hform⟩
  · rintro ⟨endpoint, h, hform⟩
    exact ⟨⟨h.nonempty, h.length, h.trimmed⟩, endpoint, h.parsed, h.safe, hform⟩

theorem form_eq_some {kind : EndpointKind} {endpoint : MintEndpoint} {result : String}
    {error : CashuPaymentRequestError} :
    (match kind with
      | .mint => orFail (cashuTs.normalizeMintUrl endpoint.href) error
      | .transport => (return endpoint.href : Except CashuPaymentRequestError String)) = .ok result ↔
      kind.form cashuTs endpoint = some result := by
  cases kind with
  | mint => exact orFail_eq_ok
  | transport =>
      rw [pure_eq_ok, Except.ok.injEq]
      exact Option.some_inj.symm

theorem normalizeHttpsEndpoint_iff {value result : String} {kind : EndpointKind} :
    normalizeHttpsEndpoint cashuTs value kind = .ok result ↔
      ∃ endpoint, IsEndpoint cashuTs value endpoint ∧ kind.form cashuTs endpoint = some result := by
  simp only [normalizeHttpsEndpoint, bind_eq_ok, ensure_eq_ok, exists_unit, orFail_eq_ok, form_eq_some]
  constructor
  · rintro ⟨⟨hnonempty, hlength, htrimmed⟩, endpoint, hparsed, hsafe, hform⟩
    obtain ⟨hprotocol, husername, hpassword, hsearch, hhash⟩ := hsafe
    exact ⟨endpoint, ⟨hnonempty, hlength, htrimmed, hparsed,
      ⟨hprotocol, husername, hpassword, hsearch, hhash⟩⟩, hform⟩
  · rintro ⟨endpoint, h, hform⟩
    exact ⟨⟨h.nonempty, h.length, h.trimmed⟩, endpoint, h.parsed,
      ⟨h.safe.protocol, h.safe.username, h.safe.password, h.safe.search, h.safe.hash⟩, hform⟩

theorem CashuTs.ReadsUrls.endpoint_of_parse (h : cashuTs.ReadsUrls parse) {value : String}
    {endpoint : MintEndpoint} (hparse : parse value.toList = some url)
    (hendpoint : IsEndpoint cashuTs value endpoint) :
    endpoint = urlEndpoint url ∧ (urlEndpoint url).Safe := by
  have hparsed := hendpoint.parsed
  rw [h.parseUrl, hparse, Option.map_some, Option.some_inj] at hparsed
  subst hparsed
  exact ⟨rfl, hendpoint.safe⟩

/-- The form that an endpoint is given is given itself exactly when it is within the bound. -/
theorem CashuTs.ReadsUrls.form_kept (h : cashuTs.ReadsUrls parse) {kind : EndpointKind}
    {value result : String} {endpoint : MintEndpoint} (hparse : parse value.toList = some url)
    (hendpoint : IsEndpoint cashuTs value endpoint) (hform : kind.form cashuTs endpoint = some result) :
    (∃ endpoint, IsEndpoint cashuTs result endpoint ∧ kind.form cashuTs endpoint = some result) ↔
      (kind.normalText url).length ≤ 512 := by
  obtain ⟨rfl, hsafe⟩ := h.endpoint_of_parse hparse hendpoint
  obtain ⟨hnonempty, hvisible⟩ := h.visible_normalText kind hparse hsafe
  obtain ⟨again, hagain, hsafe', hform'⟩ := h.form_again hparse hsafe hform
  obtain rfl := h.form_eq hparse hform
  constructor
  · rintro ⟨endpoint, hendpoint, -⟩
    rw [← utf16Length_of_visible hvisible]
    exact hendpoint.length
  · intro hlength
    have hparsed : cashuTs.parseUrl (String.ofList (kind.normalText url)) =
        some (urlEndpoint again) := by
      rw [h.parseUrl, String.toList_ofList, hagain]
      rfl
    refine ⟨urlEndpoint again, ⟨?_, ?_, isTrimmed_of_visible hvisible, hparsed, hsafe'⟩, hform'⟩
    · intro hempty
      have hlist := congrArg String.toList hempty
      rw [String.toList_ofList] at hlist
      exact hnonempty hlist
    · rw [utf16Length_of_visible hvisible]
      exact hlength

/-- A library that reads URLs keeps the mint URLs within the bound. -/
theorem CashuTs.ReadsUrls.keepsMintUrls (h : cashuTs.ReadsUrls parse) : cashuTs.KeepsMintUrls where
  trimmed {value endpoint mintUrl} hparsed hsafe hmint := by
    rw [h.parseUrl] at hparsed
    obtain ⟨url, hparse, rfl⟩ := Option.map_eq_some_iff.mp hparsed
    obtain ⟨hnonempty, hvisible⟩ := h.visible_normalText .mint hparse hsafe
    obtain rfl := h.normalizeMintUrl hparse hmint
    refine ⟨?_, isTrimmed_of_visible hvisible⟩
    intro hempty
    have hlist := congrArg String.toList hempty
    rw [String.toList_ofList] at hlist
    exact hnonempty hlist
  parsed {value endpoint mintUrl} hparsed hsafe hmint := by
    rw [h.parseUrl] at hparsed
    obtain ⟨url, hparse, rfl⟩ := Option.map_eq_some_iff.mp hparsed
    have hform : EndpointKind.mint.form cashuTs (urlEndpoint url) = some mintUrl := hmint
    obtain ⟨again, hagain, hsafe', hform'⟩ := h.form_again hparse hsafe hform
    obtain rfl := h.form_eq hparse hform
    refine ⟨urlEndpoint again, ?_, hsafe', hform'⟩
    rw [h.parseUrl, String.toList_ofList, hagain]
    rfl

/-- What a text is normalised to is normalised to itself exactly when the serialisation of its URL,
for a mint without the trailing slashes, is within the bound. -/
theorem normal_form_kept (h : cashuTs.ReadsUrls parse) {value : String}
    (hparse : parse value.toList = some url) :
    (∀ mintUrl, normalizeCashuMintUrl cashuTs value = some mintUrl →
      (normalizeCashuMintUrl cashuTs mintUrl = some mintUrl ↔
        (Url.stripSlashes url.serialize).length ≤ maxCashuEndpointLength)) ∧
      ∀ kind endpoint, normalizeHttpsEndpoint cashuTs value kind = .ok endpoint →
        (normalizeHttpsEndpoint cashuTs endpoint kind = .ok endpoint ↔
          (EndpointKind.normalText kind url).length ≤ maxEndpointLength) := by
  refine ⟨?_, ?_⟩
  · intro mintUrl hvalue
    obtain ⟨endpoint, hendpoint, hform⟩ := normalizeCashuMintUrl_iff.mp hvalue
    rw [normalizeCashuMintUrl_iff]
    exact h.form_kept hparse hendpoint hform
  · intro kind result hvalue
    obtain ⟨endpoint, hendpoint, hform⟩ := normalizeHttpsEndpoint_iff.mp hvalue
    rw [normalizeHttpsEndpoint_iff]
    exact h.form_kept hparse hendpoint hform

/-! ### Two mints

One at the root of its host, the other on a host of a hundred labels that are written in Punycode.
-/

namespace Sample

def rootText : List Char :=
  "https://Mint.example//".toList

def wideText : List Char :=
  "https://".toList ++ (List.replicate 100 ['ü', '.']).flatten ++ "example".toList

/-- A URL of a host with a path. -/
def hostUrl (host : List Char) (path : List (List Char)) : Url where
  scheme := "https".toList
  username := []
  password := []
  host
  port := none
  path
  query := none
  fragment := none

def rootUrl : Url := hostUrl "mint.example".toList [[]]

def slashesUrl : Url := hostUrl "mint.example".toList [[], []]

def wideUrl : Url := hostUrl ((List.replicate 100 "xn--tda.".toList).flatten ++ "example".toList) [[]]

/-- A parser that knows the two texts and what comes of them. -/
def parseEndpoint (text : List Char) : Option Url :=
  if text = rootText ∨ text = slashesUrl.serialize then some slashesUrl
  else if text = rootUrl.serialize ∨ text = Url.stripSlashes rootUrl.serialize then some rootUrl
  else if text = wideText ∨ text = wideUrl.serialize ∨ text = Url.stripSlashes wideUrl.serialize then
    some wideUrl
  else none

def endpointTs : CashuTs where
  decodePayload _ := none
  hashToCurve _ := ⟨"0204f5901f3e54cb4fd76bee23c83ca4f965b7009b74b3572f455ab90d88e6cbfe", by decide⟩
  jsonParse _ := none
  normalizeMintUrl text :=
    (parseEndpoint text.toList).map fun url => String.ofList (Url.stripSlashes url.serialize)
  parseUrl text := (parseEndpoint text.toList).map urlEndpoint
  pointFromHex _ := false
  verifyKeysetId _ := false
  verifyProofsForReceive _ _ := false

theorem parseEndpoint_some {text : List Char} {url : Url} (h : parseEndpoint text = some url) :
    url = slashesUrl ∨ url = rootUrl ∨ url = wideUrl := by
  unfold parseEndpoint at h
  split at h
  · exact .inl (Option.some.inj h).symm
  · split at h
    · exact .inr (.inl (Option.some.inj h).symm)
    · split at h
      · exact .inr (.inr (Option.some.inj h).symm)
      · cases h

set_option maxRecDepth 10000 in
theorem parserLaws : Url.ParserLaws parseEndpoint (· = "https".toList) where
  wellFormed h _ := by
    rcases parseEndpoint_some h with rfl | rfl | rfl
    · exact ⟨by decide, by decide, by decide, by decide, List.all_eq_true.mp (by decide +kernel)⟩
    · exact ⟨by decide, by decide, by decide, by decide, List.all_eq_true.mp (by decide +kernel)⟩
    · exact ⟨by decide +kernel, by decide +kernel, by decide, by decide,
        List.all_eq_true.mp (by decide +kernel)⟩
  serialized h _ := by
    rcases parseEndpoint_some h with rfl | rfl | rfl
    · decide +kernel
    · decide +kernel
    · decide +kernel
  shorter {text url path} h _ hpath hne := by
    rcases parseEndpoint_some h with rfl | rfl | rfl
    · obtain rfl : [[]] = path := @List.append_cancel_right _ _ [[]] _ hpath
      exact ⟨rootUrl.serialize, by decide +kernel⟩
    · exact absurd (@List.append_cancel_right _ [] [[]] _ hpath).symm hne
    · exact absurd (@List.append_cancel_right _ [] [[]] _ hpath).symm hne
  rootless h _ hpath := by
    rcases parseEndpoint_some h with rfl | rfl | rfl
    · cases hpath
    · decide +kernel
    · decide +kernel

theorem normalizeMintUrl_of_parse {text : List Char} {url : Url} (h : parseEndpoint text = some url) :
    endpointTs.normalizeMintUrl (String.ofList url.serialize) =
      some (String.ofList (Url.stripSlashes url.serialize)) := by
  have hscheme : url.scheme = "https".toList := by
    rcases parseEndpoint_some h with rfl | rfl | rfl <;> rfl
  show (parseEndpoint (String.ofList url.serialize).toList).map _ = _
  rw [String.toList_ofList, parserLaws.serialized h hscheme]
  rfl

theorem form_of_parse {text : List Char} {url : Url} (h : parseEndpoint text = some url)
    (kind : EndpointKind) :
    kind.form endpointTs (urlEndpoint url) = some (String.ofList (kind.normalText url)) := by
  cases kind with
  | mint => exact normalizeMintUrl_of_parse h
  | transport => rfl

theorem readsUrls : endpointTs.ReadsUrls parseEndpoint where
  laws := parserLaws
  parseUrl _ := rfl
  normalizeMintUrl h hmint := by
    rw [normalizeMintUrl_of_parse h] at hmint
    exact (Option.some.inj hmint).symm
  takesAgain _ _ hagain := ⟨_, normalizeMintUrl_of_parse hagain⟩

theorem safe_wideUrl : (urlEndpoint wideUrl).Safe :=
  ⟨by decide, by decide, by decide, rfl, rfl⟩

theorem parse_wideText : parseEndpoint wideText = some wideUrl := by
  decide +kernel

theorem isEndpoint_wideText :
    IsEndpoint endpointTs (String.ofList wideText) (urlEndpoint wideUrl) where
  nonempty hempty := by
    have hlist := congrArg String.toList hempty
    rw [String.toList_ofList] at hlist
    exact absurd hlist (by decide)
  length := by
    rw [utf16Length, String.toList_ofList]
    decide +kernel
  trimmed := by
    rw [isTrimmed, String.toList_ofList]
    decide +kernel
  parsed := by
    rw [readsUrls.parseUrl, String.toList_ofList, parse_wideText]
    rfl
  safe := safe_wideUrl

theorem wideUrl_refused (kind : EndpointKind) :
    ¬∃ endpoint, IsEndpoint endpointTs (String.ofList (kind.normalText wideUrl)) endpoint ∧
      kind.form endpointTs endpoint = some (String.ofList (kind.normalText wideUrl)) := by
  have hparse : parseEndpoint (String.ofList wideText).toList = some wideUrl := by
    rw [String.toList_ofList]
    exact parse_wideText
  rw [readsUrls.form_kept hparse isEndpoint_wideText (form_of_parse parse_wideText kind)]
  cases kind with
  | mint => decide +kernel
  | transport => decide +kernel

end Sample

/-- The root URL of a host is kept without its slashes. -/
theorem normal_form_kept_root :
    normalizeCashuMintUrl Sample.endpointTs "https://Mint.example//" = some "https://mint.example" ∧
      normalizeCashuMintUrl Sample.endpointTs "https://mint.example" =
        some "https://mint.example" := by
  have hparse : Sample.parseEndpoint "https://Mint.example//".toList = some Sample.slashesUrl := by
    decide +kernel
  have hvalue : normalizeCashuMintUrl Sample.endpointTs "https://Mint.example//" =
      some "https://mint.example" := by decide +kernel
  exact ⟨hvalue, ((normal_form_kept Sample.readsUrls hparse).1 _ hvalue).mpr (by decide +kernel)⟩

/-- The normal form of the wide host is refused, by each of the functions that made it. -/
theorem wide_normal_form_refused :
    Sample.endpointTs.ReadsUrls Sample.parseEndpoint ∧
      (∃ mintUrl, normalizeCashuMintUrl Sample.endpointTs (String.ofList Sample.wideText) = some mintUrl ∧
        normalizeCashuMintUrl Sample.endpointTs mintUrl ≠ some mintUrl) ∧
      ∀ kind, ∃ endpoint,
        normalizeHttpsEndpoint Sample.endpointTs (String.ofList Sample.wideText) kind = .ok endpoint ∧
          normalizeHttpsEndpoint Sample.endpointTs endpoint kind ≠ .ok endpoint := by
  refine ⟨Sample.readsUrls, ?_, ?_⟩
  · have hvalue := normalizeCashuMintUrl_iff.mpr
      ⟨_, Sample.isEndpoint_wideText, Sample.form_of_parse Sample.parse_wideText .mint⟩
    refine ⟨_, hvalue, ?_⟩
    intro hkept
    exact Sample.wideUrl_refused .mint (normalizeCashuMintUrl_iff.mp hkept)
  · intro kind
    have hvalue := normalizeHttpsEndpoint_iff.mpr
      ⟨_, Sample.isEndpoint_wideText, Sample.form_of_parse Sample.parse_wideText kind⟩
    refine ⟨_, hvalue, ?_⟩
    intro hkept
    exact Sample.wideUrl_refused kind (normalizeHttpsEndpoint_iff.mp hkept)

end CashMesh.Acquirer
