import Portcullis.Security.Upstreams

/-!
# The authority of a URL

Where a URL that passed validation leads once its trailing slashes are stripped and
something is appended to it: the text between `//` and the next `/`, `?` or `#`.
-/

namespace Portcullis.Security.Authority

open Lib.PyStr Security.Upstreams List

/-! ## Reading a URL -/

/-- Tabs and line breaks count for nothing in a URL. -/
def unbroken (text : List Char) : List Char :=
  removeChar '\n' (removeChar '\r' (removeChar '\t' text))

def cleaned (url : List Char) : List Char :=
  unbroken (url.dropWhile fun char => decide (char.toNat ≤ 0x20))

/-- What follows `scheme://`. -/
def location (url : List Char) : List Char :=
  match (splitScheme (cleaned url)).2 with
  | '/' :: '/' :: location => location
  | _ => []

def authority (url : List Char) : List Char :=
  (location url).takeWhile fun char => !isNetlocEnd char

def afterAuthority (url : List Char) : List Char :=
  (location url).dropWhile fun char => !isNetlocEnd char

/-- The host a URL names, without user information and port. -/
def hostOf (tables : UrlTables) (url : List Char) : List Char := hostname tables (authority url)

/-- Membership in the allow-list, up to case as in `validate_upstream_url`. -/
def OnList (tables : UrlTables) (hosts : List String) (host : List Char) : Prop :=
  ∃ allowed ∈ hosts, tables.lower host = tables.lower allowed.toList

instance (tables : UrlTables) (hosts : List String) (host : List Char) :
    Decidable (OnList tables hosts host) :=
  inferInstanceAs (Decidable (∃ allowed ∈ hosts, _))

/-- `url.rstrip("/")`. -/
def rstripSlash (url : List Char) : List Char :=
  (url.reverse.dropWhile fun char => decide (char = '/')).reverse

/-! ## The validated location -/

variable {tables : UrlTables} {url : List Char}

/-- The last steps of `urlsplit`, from its scheme and its location and path. -/
def assemble (tables : UrlTables) (scheme : List Char) (found : List Char × List Char) :
    Except UrlError SplitUrl :=
  match bracketError tables found.1 with
  | some failure => .error failure
  | none =>
    if !isAsciiText found.1 && tables.nfkcSplits found.1 then .error .nfkc
    else .ok { scheme := scheme, netloc := found.1,
               fragment := ((splitOnce '#' found.2).getD (found.2, [])).2 }

def netlocAndPath (rest : List Char) : List Char × List Char :=
  match rest with
  | '/' :: '/' :: location => location.span fun char => !isNetlocEnd char
  | _ => ([], rest)

theorem urlsplit_eq (tables : UrlTables) (url : List Char) :
    urlsplit tables url = assemble tables (splitScheme (cleaned url)).1
      (netlocAndPath (splitScheme (cleaned url)).2) := rfl

theorem netlocAndPath_fst (url : List Char) :
    (netlocAndPath (splitScheme (cleaned url)).2).1 = authority url := by
  unfold authority location netlocAndPath
  split
  · rw [span_eq_takeWhile_dropWhile]
  · rfl

theorem of_urlsplit {parsed : SplitUrl} (split : urlsplit tables url = .ok parsed) :
    parsed.scheme = (splitScheme (cleaned url)).1 ∧ parsed.netloc = authority url := by
  rw [urlsplit_eq, assemble, netlocAndPath_fst] at split
  split at split
  · cases split
  split at split
  · cases split
  · rw [← Except.ok.inj split]
    exact ⟨rfl, rfl⟩

/-! ## Schemes -/

def IsScheme (scheme : List Char) : Prop :=
  ∃ first tail, scheme = first :: tail ∧ first.isAlpha = true ∧ scheme.all isSchemeChar = true

variable {scheme place slashes : List Char}

theorem colon_not_mem (isScheme : IsScheme scheme) : ':' ∉ scheme := by
  obtain ⟨_, _, _, _, chars⟩ := isScheme
  intro mem
  exact absurd (all_eq_true.mp chars ':' mem) (by decide)

theorem splitScheme_of_isScheme (isScheme : IsScheme scheme) (rest : List Char) :
    splitScheme (scheme ++ ':' :: rest) = (scheme.map Char.toLower, rest) := by
  rw [splitScheme, splitOnce_eq_some.mpr ⟨rfl, colon_not_mem isScheme⟩]
  obtain ⟨first, tail, rfl, alpha, chars⟩ := isScheme
  simp only [alpha, chars, Bool.and_self, if_true]

theorem exists_isScheme {text : List Char} (named : (splitScheme text).1 ≠ []) :
    ∃ scheme, IsScheme scheme ∧ text = scheme ++ ':' :: (splitScheme text).2 := by
  unfold splitScheme at named ⊢
  split at named
  · exact absurd rfl named
  rename_i scheme rest found
  split at named
  · exact absurd rfl named
  rename_i first tail
  split at named
  · rename_i valid
    obtain ⟨alpha, chars⟩ := Bool.and_eq_true_iff.mp valid
    refine ⟨first :: tail, ⟨first, tail, rfl, alpha, chars⟩, ?_⟩
    simp only [valid]
    exact (splitOnce_eq_some.mp found).1
  · exact absurd rfl named

/-! ## Appending to a URL -/

/-- The URL reads `scheme://` and a location. -/
structure Absolute (url scheme place : List Char) : Prop where
  isScheme : IsScheme scheme
  text : cleaned url = scheme ++ ':' :: '/' :: '/' :: place

theorem Absolute.location_eq (absolute : Absolute url scheme place) : location url = place := by
  have rest : (splitScheme (cleaned url)).2 = '/' :: '/' :: place := by
    rw [absolute.text, splitScheme_of_isScheme absolute.isScheme]
  simp only [location, rest]

theorem unbroken_append (left right : List Char) :
    unbroken (left ++ right) = unbroken left ++ unbroken right := by
  simp [unbroken, removeChar]

theorem cleaned_append (ne : cleaned url ≠ []) (path : List Char) :
    cleaned (url ++ path) = cleaned url ++ unbroken path := by
  have started : (url.dropWhile fun char => decide (char.toNat ≤ 0x20)) ≠ [] := by
    intro empty
    exact ne (by rw [cleaned, empty]; rfl)
  rw [cleaned, dropWhile_append, if_neg (by simpa using started), unbroken_append, cleaned]

theorem Absolute.append (absolute : Absolute url scheme place) (path : List Char) :
    Absolute (url ++ path) scheme (place ++ unbroken path) where
  isScheme := absolute.isScheme
  text := by
    have ne : cleaned url ≠ [] := by rw [absolute.text]; simp
    rw [cleaned_append ne, absolute.text]
    simp

/-- What the path puts before its first delimiter. -/
def lead (path : List Char) : List Char :=
  (unbroken path).takeWhile fun char => !isNetlocEnd char

theorem Absolute.authority_append (absolute : Absolute url scheme place) (path : List Char) :
    authority (url ++ path) =
      if afterAuthority url = [] then authority url ++ lead path else authority url := by
  rw [authority, (absolute.append path).location_eq, authority, afterAuthority,
    absolute.location_eq, takeWhile_append]
  by_cases bare : (place.dropWhile fun char => !isNetlocEnd char) = []
  · have whole : (place.takeWhile fun char => !isNetlocEnd char) = place :=
      takeWhile_eq_self_iff.mpr (dropWhile_eq_nil_iff.mp bare)
    rw [if_pos bare, if_pos (by rw [whole]), whole]
    rfl
  · rw [if_neg bare, if_neg]
    intro sameLength
    have whole := ( takeWhile_prefix _).eq_of_length sameLength
    exact bare (dropWhile_eq_nil_iff.mpr (takeWhile_eq_self_iff.mp whole))

/-! ## Stripping slashes -/

def Slashes (text : List Char) : Prop := ∀ char ∈ text, char = '/'

theorem rstripSlash_append (url : List Char) :
    ∃ slashes, Slashes slashes ∧ url = rstripSlash url ++ slashes := by
  refine ⟨(url.reverse.takeWhile fun char => decide (char = '/')).reverse, ?_, ?_⟩
  · intro char mem
    have taken := mem_takeWhile_imp (mem_reverse.mp mem)
    exact of_decide_eq_true taken
  · rw [rstripSlash, ← reverse_append, takeWhile_append_dropWhile, reverse_reverse]

theorem unbroken_slashes (only : Slashes slashes) : unbroken slashes = slashes := by
  simp only [unbroken, removeChar, filter_filter]
  rw [filter_eq_self]
  intro char mem
  rw [only char mem]
  rfl

theorem lead_slashes (only : Slashes slashes) : lead slashes = [] := by
  cases slashes with
  | nil => rfl
  | cons first _ =>
    rw [only first mem_cons_self]
    rfl

theorem cleaned_append_slashes (only : Slashes slashes) (url : List Char) :
    cleaned (url ++ slashes) = cleaned url ++ slashes := by
  have visible : (slashes.dropWhile fun char => decide (char.toNat ≤ 0x20)) = slashes := by
    cases slashes with
    | nil => rfl
    | cons first _ =>
      rw [only first mem_cons_self]
      rfl
  rw [cleaned, dropWhile_append, visible, cleaned]
  split
  · rename_i empty
    rw [List.isEmpty_iff.mp empty, unbroken_slashes only]
    rfl
  · rw [unbroken_append, unbroken_slashes only]

theorem exists_of_append_slashes {text front rest : List Char} (only : Slashes slashes)
    {last : Char} (ends : last ∈ front.getLast?) (other : last ≠ '/')
    (same : text ++ slashes = front ++ rest) :
    ∃ kept, text = front ++ kept ∧ rest = kept ++ slashes := by
  rcases append_eq_append_iff.mp same with ⟨extra, inFront, split⟩ | ⟨kept, inText, split⟩
  · rcases eq_nil_or_concat extra with rfl | ⟨_, final, rfl⟩
    · exact ⟨[], by simpa using inFront.symm, by simpa using split.symm⟩
    have slash : final = '/' := only final (by rw [split]; simp)
    rw [inFront] at ends
    simp at ends
    exact absurd (ends ▸ slash) other
  · exact ⟨kept, inText, split⟩

theorem Absolute.rstripSlash {scheme place : List Char} (absolute : Absolute url scheme place)
    (named : authority url ≠ []) : ∃ kept, Absolute (rstripSlash url) scheme kept := by
  obtain ⟨slashes, only, whole⟩ := rstripSlash_append url
  have parts : authority url ++ afterAuthority url = place := by
    rw [authority, afterAuthority, absolute.location_eq, takeWhile_append_dropWhile]
  have text : cleaned (Authority.rstripSlash url) ++ slashes =
      (scheme ++ ':' :: '/' :: '/' :: authority url) ++ afterAuthority url := by
    rw [← cleaned_append_slashes only, ← whole, absolute.text, ← parts]
    simp
  have inside := mem_takeWhile_imp (getLast_mem named)
  have ends : (authority url).getLast named ∈
      (scheme ++ ':' :: '/' :: '/' :: authority url).getLast? := by
    simp [List.getLast?_cons, List.getLast?_eq_getLast_of_ne_nil named]
  have other : (authority url).getLast named ≠ '/' := by
    intro slash
    rw [slash] at inside
    cases inside
  obtain ⟨kept, keptText, _⟩ := exists_of_append_slashes only ends other text
  exact ⟨authority url ++ kept, absolute.isScheme, by rw [keptText]; simp⟩

theorem authority_rstripSlash (absolute : Absolute url scheme place) (named : authority url ≠ []) :
    authority (rstripSlash url) = authority url := by
  obtain ⟨kept, stripped⟩ := absolute.rstripSlash named
  obtain ⟨slashes, only, whole⟩ := rstripSlash_append url
  have extended := stripped.authority_append slashes
  rw [← whole, lead_slashes only, append_nil, ite_self] at extended
  exact extended.symm

/-! ## Validated URLs -/

theorem scheme_ne_nil {environment : Environment} (passed : schemeError environment scheme = none) :
    scheme ≠ [] := by
  rintro rfl
  cases environment <;> cases passed

theorem of_validateUpstreamUrl {url : String} {hosts : List String} {environment : Environment}
    (passed : validateUpstreamUrl tables url hosts environment = .ok ()) :
    (splitScheme (cleaned url.toList)).1 ≠ [] ∧ OnList tables hosts (hostOf tables url.toList) := by
  unfold validateUpstreamUrl at passed
  cases split : urlsplit tables url.toList with
  | error failure =>
    rw [split] at passed
    cases passed
  | ok parsed =>
    obtain ⟨scheme, netloc⟩ := of_urlsplit split
    rw [split] at passed
    change (if _ then _ else _) = _ at passed
    split at passed
    · cases passed
    split at passed
    · cases passed
    split at passed
    · cases passed
    rename_i allowed
    dsimp only at passed
    split at passed
    · rename_i listed
      rw [scheme] at allowed
      refine ⟨scheme_ne_nil allowed, ?_⟩
      rw [netloc] at listed
      simpa [OnList, hostOf] using listed
    · cases passed

section Lower

variable (lowerKeeps : ∀ text, tables.lower text = [] → text = [])
include lowerKeeps

theorem authority_ne_nil {hosts : List String} (named : ∀ allowed ∈ hosts, allowed ≠ "")
    (listed : OnList tables hosts (hostOf tables url)) : authority url ≠ [] := by
  intro empty
  obtain ⟨allowed, mem, same⟩ := listed
  have lowerNil : tables.lower [] = [] := tables.lowerAscii [] nofun
  have unnamed : hostOf tables url = [] := by
    rw [hostOf, empty]
    exact lowerNil
  rw [unnamed, lowerNil] at same
  exact named allowed mem (String.toList_eq_nil_iff.mp (lowerKeeps _ same.symm))

theorem absolute_of_validated {url : String} {hosts : List String} {environment : Environment}
    (named : ∀ allowed ∈ hosts, allowed ≠ "")
    (passed : validateUpstreamUrl tables url hosts environment = .ok ()) :
    authority url.toList ≠ [] ∧ ∃ scheme, Absolute url.toList scheme (location url.toList) := by
  obtain ⟨schemed, listed⟩ := of_validateUpstreamUrl passed
  have present := authority_ne_nil lowerKeeps named listed
  refine ⟨present, ?_⟩
  obtain ⟨scheme, isScheme, text⟩ := exists_isScheme schemed
  refine ⟨scheme, isScheme, ?_⟩
  -- Without `//` after the scheme there is no authority.
  have placed : (splitScheme (cleaned url.toList)).2 = '/' :: '/' :: location url.toList := by
    unfold authority location at present
    unfold location
    split at present
    · rename_i place rest
      simp only [rest]
    · exact absurd rfl present
  rw [placed] at text
  exact text

end Lower

end Portcullis.Security.Authority
