import ProxyFleet.Address
import ProxyFleet.Fleet

/-!
# Side files

The files that a document refers to.  What has to be done for them is laid down beforehand as a
row of tasks, in the order of the records: files whose content has to be found, files whose
content is known, variables of the environment, and the points at which a cancelled pass stops.

* `Task.refs` : the stored values that a task reads.
-/

namespace ProxyFleet

/-- What a stored value is used for. -/
inductive FileUse
  | certificate
  | errorPage
  | header
  deriving DecidableEq

/-- How messages name a use. -/
def FileUse.label : FileUse → String
  | .certificate => "SSL certificate"
  | .errorPage => "HTTP static file"
  | .header => "HTTP header"

/-- One step of the work on side files. -/
inductive Task
  /-- A cancelled pass stops here. -/
  | checkpoint
  /-- Finds the content of a file for a record. -/
  | find (owner : RecordRef) (use : FileUse) (path : String) (source : Section.Source)
  /-- A file with known content. -/
  | put (path content : String)
  /-- Finds the value of a variable for a record. -/
  | define (owner : RecordRef) (v : Section.Variable)
  /-- A record maps to a backend that has no host pattern. -/
  | refuse (owner backend : RecordRef)
  deriving DecidableEq

/-- The stored values that a task reads, in order. -/
def Task.refs : Task → List StoreRef
  | .find _ _ _ source => source.refs
  | .define _ v =>
    match v.value with
    | .literal _ => []
    | .secret ref => [ref]
  | _ => []

namespace SideFile

open Section (Certificate CertificateElement ErrorFile Bind ServerParams Base RegexMapping)

/-! ## Files of certificates and error pages -/

/-- The file of a certificate. -/
def certificate (owner : RecordRef) (c : Certificate) : Task :=
  .find owner .certificate c.path c.source

/-- The files of error pages that have a source. -/
def errorFiles (owner : RecordRef) (files : List ErrorFile) : List Task :=
  files.filterMap (fun e => e.source.map (.find owner .errorPage e.path))

/-- The files of a certificate of a list. -/
def element (owner : RecordRef) (e : CertificateElement) : List Task :=
  [certificate owner e.certificate] ++
    match e.ocsp with
    | .updateWith name content => [.put (Section.ocspPath name) content]
    | _ => []

/-- The content of a certificate list: its lines in ascending order. -/
def listContent (elements : List CertificateElement) : String :=
  String.join ((elements.map CertificateElement.line).mergeSort (fun a b => !decide (b < a)))

/-- The files of an address, whose certificate list is completed by further certificates. -/
def bind (owner : RecordRef) (extra : List CertificateElement) (b : Bind) : List Task :=
  b.certificates.map (certificate owner) ++
    match b.certificateList with
    | none => []
    | some list =>
      (list.elements ++ extra).flatMap (element owner) ++
        [.put list.path (listContent (list.elements ++ extra))]

/-- The files of servers. -/
def servers (owner : RecordRef) (params : List ServerParams) : List Task :=
  (params.flatMap ServerParams.certificates).map (certificate owner)

/-- The files and variables of settings that sections share. -/
def base (owner : RecordRef) (b : Base) : List Task :=
  (b.acls.filter (·.isExternalized)).map (fun a => .put a.filePath a.fileContent) ++
    errorFiles owner b.errorFiles ++ b.environment.map (.define owner)

/-! ## Files of host patterns -/

/-- The host certificates of the backends that a bind's certificate list selects. -/
def selectedCertificates (backends : List (Entry Section.Backend)) (b : Bind) :
    List CertificateElement :=
  match b.certificateList.bind (·.selector) with
  | none => []
  | some selector =>
    (backends.filter (fun e => selector.selects e.labels)).filterMap (·.content.hostCertificate)

/-- A host pattern without the anchors that it may have at its two ends. -/
def bareRegex (regex : String) : String :=
  let regex := (Text.withoutEnd "$" regex).getD regex
  (Text.withoutStart "^" regex).getD regex

/-- The line of a backend in a file of patterns: its pattern anchored at both ends, and its name. -/
def regexLine (regex name : String) : String := "^" ++ bareRegex regex ++ "$ " ++ name

/-- The lines of the backends, or the first one without a pattern. -/
def regexLines (backends : List (Entry Section.Backend)) : Except RecordRef (List String) :=
  backends.mapM (fun e =>
    match e.content.hostRegex with
    | some regex => .ok (regexLine regex e.content.name)
    | none => .error e.ref)

/-- The file of the patterns of the backends that a mapping selects, in descending order. -/
def mapping (owner : RecordRef) (backends : List (Entry Section.Backend)) (m : RegexMapping) :
    Task :=
  match regexLines (backends.filter (fun e => m.selector.selects e.labels)) with
  | .ok lines =>
    .put m.path (String.intercalate "\n" (lines.mergeSort (fun a b => !decide (a < b))))
  | .error backend => .refuse owner backend

/-! ## Files of records -/

/-- The files of a listen. -/
def listen (e : Entry Section.Listen) : List Task :=
  [.checkpoint] ++ e.content.binds.flatMap (bind e.ref e.content.hostCertificate.toList) ++
    servers e.ref e.content.pool.params ++ base e.ref e.content.base

/-- The files of a frontend. -/
def frontend (backends : List (Entry Section.Backend)) (e : Entry Section.Frontend) : List Task :=
  [.checkpoint] ++
    e.content.binds.flatMap (fun b => bind e.ref (selectedCertificates backends b) b) ++
    e.content.mappings.map (mapping e.ref backends) ++ base e.ref e.content.base

/-- The files of a backend. -/
def backend (e : Entry Section.Backend) : List Task :=
  [.checkpoint] ++ servers e.ref e.content.pool.params ++ base e.ref e.content.base

/-! ## Files of the process -/

/-- The path of the variables of the environment. -/
def envPath : String := inConfigDir "env"

/-- The path of the settings of the daemon that log lines are sent to. -/
def syslogPath : String := inConfigDir "rsyslog.conf"

/-- The settings of a daemon that passes log lines from a local socket to the standard output. -/
def syslogContent (address : String) : String :=
  "module(load=\"imuxsock\" SysSock.Use=\"off\")\n" ++
    "input(type=\"imuxsock\" Socket=\"" ++ address ++ "\" CreatePath=\"on\")\n" ++
    "*.* action(type=\"omfile\" file=\"/dev/stdout\")\n"

/-- The file of the daemon's settings, which a local socket needs. -/
def syslog (log : Option Section.LogTarget) : List Task :=
  match log with
  | none => []
  | some t =>
    if Address.isAddress t.address then [] else [.put syslogPath (syslogContent t.address)]

/-- All that has to be done for the side files of a fleet. -/
def tasks (owner : RecordRef) (i : Section.Instance) (f : Fleet) : List Task :=
  i.global.additionalCertificates.map (certificate owner) ++
    errorFiles owner i.defaults.errorFiles ++ f.listens.flatMap listen ++
    f.frontends.flatMap (frontend f.backends) ++ f.backends.flatMap backend ++
    syslog i.global.log

end SideFile

end ProxyFleet
