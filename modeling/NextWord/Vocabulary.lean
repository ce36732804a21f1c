/-!
# Fixed vocabularies

Words that are offered whatever the definitions say, in the order in which they are offered.
-/

namespace NextWord.Vocabulary

def boolLiterals : List String :=
  ["true", "false"]

def crudActions : List String :=
  ["create", "update", "delete", "get"]

def accountManagementKeys : List String :=
  ["account_id", "account_name"]

/-- The operators of a filter with their opening parenthesis, in the order in which they are
offered. -/
def filterOperators : List String :=
  ["eq(", "lt(", "gt(", "ge(", "le(", "in(", "like("]

/-- Fields that every resource can be filtered on besides its attributes. -/
def filterImplicitFields : List String :=
  ["id", "created_at", "updated_at"]

/-- Fields that every resource can be sorted by besides its attributes. -/
def sortImplicitFields : List String :=
  ["updated_at", "created_at"]

def listParameters : List String :=
  ["sort", "filter", "include", "page[limit]", "page[offset]", "page[total_method]"]

def readParameters : List String :=
  ["include"]

/-- Ways to count the resources of a list. -/
def totalMethods : List String :=
  ["exact", "estimate", "lower_bound", "observed", "cached", "none"]

/-- Attributes of an aliased resource that an alias can refer to. -/
def aliasSuffixes : List String :=
  ["sku", "slug", "code"]

def fileExtensions : List String :=
  ["gif", "jpg", "jpeg", "png", "webp", "mp4", "mov", "pdf", "svg", "usdz", "glb", "jp2", "jxr",
    "aac", "vrml", "doc", "docx", "ppt", "pptx", "xls", "xlsx"]

/-- Template functions that produce a value on their own. -/
def generatorFunctions : List String :=
  ["date", "now", "randAlphaNum", "randAlpha", "randAscii", "randNumeric", "pseudoRandAlphaNum",
    "pseudoRandAlpha", "pseudoRandNumeric", "pseudoRandString", "pseudoRandInt", "uuidv4",
    "duration"]

/-- Template functions that only make sense behind a pipe. -/
def pipelineFunctions : List String :=
  ["trim", "trimAll", "trimSuffix", "trimPrefix", "upper", "lower", "title", "repeat", "substr",
    "nospace", "trunc", "abbrev", "initials", "wrap", "cat", "replace", "snakecase", "camelcase",
    "kebabcase", "swapcase", "shufflecase"]

def currencies : List String :=
  ["AED", "AFN", "ALL", "AMD", "ANG", "AOA", "ARS", "AUD", "AWG", "AZN", "BAM", "BBD", "BDT",
    "BGN", "BHD", "BIF", "BMD", "BND", "BOB", "BRL", "BSD", "BTN", "BWP", "BYN", "BZD", "CAD",
    "CDF", "CHF", "CLP", "CNY", "COP", "CRC", "CUC", "CUP", "CVE", "CZK", "DJF", "DKK", "DOP",
    "DZD", "EGP", "ERN", "ETB", "EUR", "FJD", "FKP", "GBP", "GEL", "GGP", "GHS", "GIP", "GMD",
    "GNF", "GTQ", "GYD", "HKD", "HNL", "HRK", "HTG", "HUF", "IDR", "ILS", "IMP", "INR", "IQD",
    "IRR", "ISK", "JEP", "JMD", "JOD", "JPY", "KES", "KGS", "KHR", "KMF", "KPW", "KRW", "KWD",
    "KYD", "KZT", "LAK", "LBP", "LKR", "LRD", "LSL", "LYD", "MAD", "MDL", "MGA", "MKD", "MMK",
    "MNT", "MOP", "MRU", "MUR", "MVR", "MWK", "MXN", "MYR", "MZN", "NAD", "NGN", "NIO", "NOK",
    "NPR", "NZD", "OMR", "PAB", "PEN", "PGK", "PHP", "PKR", "PLN", "PYG", "QAR", "RON", "RSD",
    "RUB", "RWF", "SAR", "SBD", "SCR", "SDG", "SEK", "SGD", "SHP", "SLL", "SOS", "SPL", "SRD",
    "STN", "SVC", "SYP", "SZL", "THB", "TJS", "TMT", "TND", "TOP", "TRY", "TTD", "TVD", "TWD",
    "TZS", "UAH", "UGX", "USD", "UYU", "UZS", "VEF", "VND", "VUV", "WST", "XAF", "XCD", "XDR",
    "XOF", "XPF", "YER", "ZAR", "ZMW", "ZWD"]

end NextWord.Vocabulary
