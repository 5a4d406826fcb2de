import SchemaKeeper.Settings
import SchemaKeeper.Store.Codec

/-!
The form of settings, in which every part may be missing.
-/

namespace SchemaKeeper

open Json

def Runtime.codec : Codec Runtime :=
  Codec.record "RuntimeConfig"
    (Codec.withField
        (Codec.defaulted "operation_timeout_secs" Codec.uint64 standard.operationTimeout) <|
      Codec.withField
        (Codec.defaulted "retry_interval_secs" Codec.uint64 standard.retryInterval) <|
      Codec.withField
        (Codec.defaulted "error_interval_secs" Codec.uint64 standard.errorInterval) <|
      Codec.withField (Codec.defaulted "finalizer_name" Codec.string standard.finalizerName) <|
      Codec.withField (Codec.defaulted "max_mapping_depth" Codec.size standard.maxMappingDepth)
        Codec.noFields)
    (fun (timeout, retry, error, finalizer, depth, ()) => ⟨timeout, retry, error, finalizer, depth⟩)
    (fun r =>
      (r.operationTimeout, r.retryInterval, r.errorInterval, r.finalizerName, r.maxMappingDepth,
        ()))

def Tls.codec : Codec Tls :=
  Codec.record "TlsConfig"
    (Codec.withField
        (Codec.defaulted "insecure_skip_verify" Codec.bool standard.insecureSkipVerify)
      Codec.noFields)
    (fun (insecure, ()) => ⟨insecure⟩)
    (fun t => (t.insecureSkipVerify, ()))

def Settings.codec : Codec Settings :=
  Codec.record "AppConfig"
    (Codec.withField (Codec.defaulted "runtime" Runtime.codec .standard) <|
      Codec.withField (Codec.defaulted "tls" Tls.codec .standard) <|
      Codec.withField (Codec.defaulted "connections" (Table.codec Codec.string) .empty) <|
      Codec.withField (Codec.defaulted "objects" (Codec.list Entry.codec) []) Codec.noFields)
    (fun (runtime, tls, connections, objects, ()) => ⟨runtime, tls, connections, objects⟩)
    (fun s => (s.runtime, s.tls, s.connections, s.objects, ()))

end SchemaKeeper
