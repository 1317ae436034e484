import CtorScan.Assembly.Ty

/-!
# Attributes

Words that say something about functions, calls and variables without changing
what is called.  They are read and checked for their form only.
-/

namespace CtorScan
namespace Assembly
namespace Attribute

/-- Kinds of linkage. -/
def linkages : List String :=
  ["appending", "available_externally", "common", "internal", "linkonce", "linkonce_odr",
    "private", "weak", "weak_odr", "extern_weak", "external"]

/-- The kinds of linkage of something that is defined elsewhere. -/
def outerLinkages : List String :=
  ["extern_weak", "external"]

/-- Calling conventions that are one word. -/
def conventions : List String :=
  ["aarch64_sve_vector_pcs", "aarch64_vector_pcs", "amdgpu_cs", "amdgpu_es", "amdgpu_gfx",
    "amdgpu_gs", "amdgpu_hs", "amdgpu_kernel", "amdgpu_ls", "amdgpu_ps", "amdgpu_vs", "anyregcc",
    "arm_aapcs_vfpcc", "arm_aapcscc", "arm_apcscc", "avr_intrcc", "avr_signalcc", "ccc",
    "cfguard_checkcc", "coldcc", "cxx_fast_tlscc", "fastcc", "ghccc", "hhvm_ccc", "hhvmcc",
    "intel_ocl_bicc", "msp430_intrcc", "preserve_allcc", "preserve_mostcc", "ptx_device",
    "ptx_kernel", "spir_func", "spir_kernel", "swiftcc", "swifttailcc", "tailcc", "webkit_jscc",
    "win64cc", "x86_64_sysvcc", "x86_fastcallcc", "x86_intrcc", "x86_regcallcc", "x86_stdcallcc",
    "x86_thiscallcc", "x86_vectorcallcc"]

/-- Attributes of functions that are one word. -/
def functionWords : List String :=
  ["alwaysinline", "argmemonly", "builtin", "cold", "convergent",
    "disable_sanitizer_instrumentation", "fn_ret_thunk_extern", "hot",
    "inaccessiblemem_or_argmemonly", "inaccessiblememonly", "inlinehint", "jumptable", "minsize",
    "mustprogress", "naked", "nobuiltin", "nocallback", "nocf_check", "noduplicate", "nofree",
    "noimplicitfloat", "noinline", "nomerge", "nonlazybind", "noprofile", "norecurse",
    "noredzone", "noreturn", "nosanitize_bounds", "nosanitize_coverage", "nosync", "nounwind",
    "null_pointer_is_valid", "optforfuzzing", "optnone", "optsize", "presplitcoroutine",
    "readnone", "readonly", "returns_twice", "safestack", "sanitize_address",
    "sanitize_hwaddress", "sanitize_memory", "sanitize_memtag", "sanitize_thread",
    "shadowcallstack", "speculatable", "speculative_load_hardening", "ssp", "sspreq", "sspstrong",
    "strictfp", "uwtable", "willreturn", "writeonly"]

/-- Attributes of results that are one word. -/
def resultWords : List String :=
  ["inreg", "noalias", "nonnull", "noundef", "signext", "zeroext"]

/-- A calling convention. -/
def convention : Parse Unit :=
  (do discard (Parse.wordOf conventions)) <|>
  (do
    Parse.word "cc"
    discard Parse.natural)

/-- An attribute of a result. -/
def result : Parse Unit :=
  Ty.quotedAttribute <|>
  (do
    discard (Parse.wordOf ["dereferenceable", "dereferenceable_or_null"])
    discard (Parse.parenthesized Parse.natural)) <|>
  (do
    Parse.word "align"
    discard (Parse.natural <|> Parse.parenthesized Parse.natural)) <|>
  (do discard (Parse.wordOf resultWords))

/-- A reference to an attribute group. -/
def group : Parse Unit :=
  Parse.accept fun token =>
    match token with
    | .attributeGroup _ => some ()
    | _ => none

/-- One or two numbers in brackets. -/
def numbers : Parse Unit :=
  Parse.parenthesized do
    discard Parse.natural
    discard (Parse.optional (do Parse.sign ','; Parse.natural))

/-- An attribute of a function. -/
def function : Parse Unit :=
  Ty.quotedAttribute <|> group <|>
  (do
    discard (Parse.wordOf ["allocsize", "vscale_range"])
    numbers) <|>
  (do
    Parse.word "alignstack"
    discard (Parse.parenthesized Parse.natural <|> (do Parse.sign '='; Parse.natural))) <|>
  (do
    Parse.word "allockind"
    discard (Parse.parenthesized Parse.quoted)) <|>
  (do
    Parse.word "uwtable"
    discard (Parse.parenthesized (Parse.wordOf ["sync", "async"]))) <|>
  (do
    Parse.word "preallocated"
    discard (Parse.parenthesized Ty.parse)) <|>
  (do discard (Parse.wordOf functionWords))

/-- An attribute in a group, where alignment is written with an equals sign. -/
def grouped : Parse Unit :=
  (do
    discard (Parse.wordOf ["align", "alignstack"])
    Parse.sign '='
    discard Parse.natural) <|>
  function

/-- What may stand before the type of a variable or a function: its linkage, and
where it is visible. -/
def placement : Parse Unit := do
  discard (Parse.optional (Parse.wordOf ["dso_local", "dso_preemptable"]))
  discard (Parse.optional (Parse.wordOf ["default", "hidden", "protected"]))
  discard (Parse.optional (Parse.wordOf ["dllexport", "dllimport"]))

/-- A thread-local variable. -/
def threadLocal : Parse Unit := do
  Parse.word "thread_local"
  discard (Parse.optional
    (Parse.parenthesized (Parse.wordOf ["initialexec", "localdynamic", "localexec"])))

/-- The address does not matter. -/
def unnamed : Parse Unit := do
  discard (Parse.optional (Parse.wordOf ["local_unnamed_addr", "unnamed_addr"]))

end Attribute
end Assembly
end CtorScan
