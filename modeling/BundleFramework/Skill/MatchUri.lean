import BundleFramework.Base.Str

/-!
# Matching a uri and a type against one entry of a skill

`MatchUri` and `MatchType` compare the uri and the type of a want with one `SkillUri`.  The
type registry (UDMF) and `std::regex` are outside of the repository: they are the fields of
`MatchEnv`, pure functions of their arguments.
-/

namespace BundleFramework

structure SkillUri where
  scheme : Str := []
  host : Str := []
  port : Str := []
  path : Str := []
  pathStartWith : Str := []
  pathRegex : Str := []
  type : Str := []
  linkFeature : Str := []
  deriving DecidableEq

/-- What the matching asks of other components. -/
structure MatchEnv where
  /-- `BUNDLE_FRAMEWORK_UDMF_ENABLED`. -/
  udmfEnabled : Bool
  /-- `UtdClient::IsUtd`; `none` is an error. -/
  isUtd : Str → Option Bool
  getUniformDataTypesByMIMEType : Str → Option (List Str)
  getUniformDataTypesByFilenameExtension : Str → Option (List Str)
  /-- `UtdClient::GetTypeDescriptor`, a descriptor being the answers of its `BelongsTo`. -/
  getTypeDescriptor : Str → Option (Str → Option Bool)
  /-- `regex_match(text, std::regex(pattern))`; `none` is `std::regex_error`. -/
  regexMatch : Str → Str → Option Bool

/-! ## Uri -/

def schemeSeparator : Str := "://".toList

def startsWith (sourceString targetPrefix : Str) : Bool := targetPrefix.isPrefixOf sourceString

/-- The uri up to its first `?`. -/
def getOptParamUri (uriString : Str) : Str :=
  match strFind uriString ['?'] with
  | none => uriString
  | some pos => uriString.take pos

def convertToLower (str : Str) : Str := str.map Char.toLower

/-- Scheme and host in lower case, the path as it is. -/
def convertUriToLower (uri : Str) : Str :=
  match strFind uri schemeSeparator with
  | none => convertToLower uri
  | some protocolEnd =>
    if protocolEnd + 3 = uri.length then convertToLower uri
    else
      let protocol := uri.take protocolEnd
      let rest := uri.drop (protocolEnd + 3)
      -- `endHost` counts from the start of the host
      let endHost := strFind rest ['/']
      let host := match endHost with
        | none => rest
        | some pos => rest.take pos
      let path := match endHost with
        | none => []
        | some pos => rest.drop pos
      convertToLower protocol ++ schemeSeparator ++ convertToLower host ++ path

def matchUri (env : MatchEnv) (uriString : Str) (skillUri : SkillUri) : Bool :=
  if uriString.isEmpty && skillUri.scheme.isEmpty then true
  else if uriString.isEmpty || skillUri.scheme.isEmpty then false
  else if skillUri.host.isEmpty then
    let uriStr := convertUriToLower (getOptParamUri uriString)
    let skillScheme := convertToLower skillUri.scheme
    uriStr == skillScheme || startsWith uriStr (skillScheme ++ [':'])
  else
    let optParamUri := convertUriToLower (getOptParamUri uriString)
    let skillUriString := convertUriToLower (skillUri.scheme ++ schemeSeparator ++ skillUri.host)
    let skillUriString :=
      if !skillUri.port.isEmpty then skillUriString ++ [':'] ++ skillUri.port else skillUriString
    if skillUri.path.isEmpty && skillUri.pathStartWith.isEmpty && skillUri.pathRegex.isEmpty then
      let ret := optParamUri == skillUriString || startsWith optParamUri (skillUriString ++ ['/'])
      if skillUri.port.isEmpty then ret || startsWith optParamUri (skillUriString ++ [':']) else ret
    else
      let skillUriString := skillUriString ++ ['/']
      if !skillUri.path.isEmpty && optParamUri == skillUriString ++ skillUri.path then true
      else if !skillUri.pathStartWith.isEmpty &&
          startsWith optParamUri (skillUriString ++ skillUri.pathStartWith) then true
      else if !skillUri.pathRegex.isEmpty then
        match env.regexMatch (skillUriString ++ skillUri.pathRegex) optParamUri with
        | some matched => matched
        | none => false
      else false

/-! ## Type -/

/-- `Skill::IsUtd`. -/
def isUtd (env : MatchEnv) (param : Str) : Bool :=
  if env.udmfEnabled then
    match env.isUtd param with
    | some isUtd => isUtd
    | none => false
  else false

def isUtdMatch (env : MatchEnv) (paramUtd skillUtd : Str) : Bool :=
  if env.udmfEnabled then
    match env.getTypeDescriptor paramUtd with
    | none => false
    | some belongsTo =>
      match belongsTo skillUtd with
      | none => false
      | some isMatch => isMatch
  else false

/-- The result, and `containsUtd`. -/
def matchUtd (env : MatchEnv) (paramType skillUriType : Str) : Bool × Bool :=
  if env.udmfEnabled then
    let isParamUtd := isUtd env paramType
    let isSkillUtd := isUtd env skillUriType
    let containsUtd := isParamUtd || isSkillUtd
    if !isParamUtd && !isSkillUtd then (false, containsUtd)
    else if isParamUtd && isSkillUtd then (isUtdMatch env paramType skillUriType, containsUtd)
    else if !isParamUtd && isSkillUtd then
      match env.getUniformDataTypesByMIMEType paramType with
      | none => (false, containsUtd)
      | some paramUtdVector =>
        (paramUtdVector.any fun paramUtd => isUtdMatch env paramUtd skillUriType, containsUtd)
    else
      match env.getUniformDataTypesByMIMEType skillUriType with
      | none => (false, containsUtd)
      | some skillUtdVector =>
        (skillUtdVector.any fun skillUtd => isUtdMatch env paramType skillUtd, containsUtd)
  else (false, false)

def typeWildcard : Str := "*/*".toList

def generalObject : Str := "general.object".toList

def typeOnlyMatchWildcard : Str := "reserved/wildcard".toList

def matchType (env : MatchEnv) (type skillUriType : Str) : Bool :=
  if type.isEmpty && skillUriType.isEmpty then true
  else if type.isEmpty || skillUriType.isEmpty then false
  else if type == typeOnlyMatchWildcard then
    skillUriType == typeWildcard || skillUriType == generalObject
  else
    let (matchUtdRet, containsUtd) := matchUtd env type skillUriType
    if containsUtd then matchUtdRet
    else if type == typeWildcard || skillUriType == typeWildcard then true
    else if type.getLast? == some '*' then strFind skillUriType type.dropLast == some 0
    else if skillUriType.getLast? == some '*' then strFind type skillUriType.dropLast == some 0
    else type == skillUriType

/-! ## Types of a file name -/

/-- `MimeTypeMgr::IsSpecifiedSuffixNumberExtension`: the uri ends in the suffix and digits. -/
def isSpecifiedSuffixNumberExtension (uri suffix : Str) : Bool :=
  match strRFind uri suffix with
  | none => false
  | some pos =>
    if pos + suffix.length ≥ uri.length then false
    else (uri.drop (pos + suffix.length)).all fun c => '0' ≤ c && c ≤ '9'

def getUriSuffix (uri : Str) : Option Str :=
  if isSpecifiedSuffixNumberExtension uri ".zip.".toList then some ".zip".toList
  else if isSpecifiedSuffixNumberExtension uri ".7z.".toList then some ".7z".toList
  else
    match strRFindChar uri '.' with
    | none => none
    | some suffixIndex => some (convertToLower (uri.drop suffixIndex))

/-- `MimeTypeMgr::GetUtdVectorByUri`; `none` is the result `false`. -/
def getUtdVectorByUri (env : MatchEnv) (uri : Str) : Option (List Str) :=
  if env.udmfEnabled then
    match getUriSuffix uri with
    | none => none
    | some suffix =>
      if suffix.isEmpty then none
      else if suffix.head? ≠ some '.' || suffix.contains '?' || suffix.contains ':' ||
          suffix.contains '=' || suffix.contains '\\' then none
      else
        match env.getUniformDataTypesByFilenameExtension suffix with
        | none => none
        | some utdVector => if utdVector.isEmpty then none else some utdVector
  else none

end BundleFramework
