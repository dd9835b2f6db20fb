import Offload.Fault

/-! The calls that a native driver answers, by name. -/
namespace Offload

/-- What an information query is about. -/
inductive InfoTopic where
  | platform | device | build | kernel | workGroup | event | profiling
  deriving DecidableEq, Repr

/-- The commands that can be put into a queue. -/
inductive CommandKind where
  | readBuffer | writeBuffer | copyBuffer | fillBuffer | readImage | writeImage
  | dispatch | barrier | marker
  deriving DecidableEq, Repr

inductive EntryPoint where
  | platformIds | deviceIds | imageFormats
  | info (topic : InfoTopic)
  | createContext | createQueue | createBuffer | createImage | createProgram | createKernel
  | createUserEvent
  | buildProgram | setKernelArg | setEventStatus | waitForEvents | flush | finish
  | enqueue (command : CommandKind)
  | release (kind : ObjectKind)
  deriving DecidableEq, Repr

def InfoTopic.all : List InfoTopic :=
  [.platform, .device, .build, .kernel, .workGroup, .event, .profiling]

def CommandKind.all : List CommandKind :=
  [.readBuffer, .writeBuffer, .copyBuffer, .fillBuffer, .readImage, .writeImage, .dispatch,
   .barrier, .marker]

def ObjectKind.all : List ObjectKind := [.context, .queue, .memory, .program, .kernel, .event]

namespace EntryPoint

def all : List EntryPoint :=
  [.platformIds, .deviceIds, .imageFormats, .createContext, .createQueue, .createBuffer,
   .createImage, .createProgram, .createKernel, .createUserEvent, .buildProgram, .setKernelArg,
   .setEventStatus, .waitForEvents, .flush, .finish] ++
  InfoTopic.all.map .info ++ CommandKind.all.map .enqueue ++ ObjectKind.all.map .release

/-- The name under which calls are counted and failures are injected. -/
def name : EntryPoint → String
  | platformIds => "get_platform_ids"
  | deviceIds => "get_device_ids"
  | imageFormats => "get_supported_image_formats"
  | info .platform => "get_platform_info"
  | info .device => "get_device_info"
  | info .build => "get_program_build_info"
  | info .kernel => "get_kernel_info"
  | info .workGroup => "get_kernel_work_group_info"
  | info .event => "get_event_info"
  | info .profiling => "get_event_profiling_info"
  | createContext => "create_context"
  | createQueue => "create_command_queue"
  | createBuffer => "create_buffer"
  | createImage => "create_image"
  | createProgram => "create_program_with_source"
  | createKernel => "create_kernel"
  | createUserEvent => "create_user_event"
  | buildProgram => "build_program"
  | setKernelArg => "set_kernel_arg"
  | setEventStatus => "set_user_event_status"
  | waitForEvents => "wait_for_events"
  | flush => "flush"
  | finish => "finish"
  | enqueue .readBuffer => "enqueue_read_buffer"
  | enqueue .writeBuffer => "enqueue_write_buffer"
  | enqueue .copyBuffer => "enqueue_copy_buffer"
  | enqueue .fillBuffer => "enqueue_fill_buffer"
  | enqueue .readImage => "enqueue_read_image"
  | enqueue .writeImage => "enqueue_write_image"
  | enqueue .dispatch => "enqueue_nd_range_kernel"
  | enqueue .barrier => "enqueue_barrier_with_wait_list"
  | enqueue .marker => "enqueue_marker_with_wait_list"
  | release .context => "release_context"
  | release .queue => "release_command_queue"
  | release .memory => "release_mem_object"
  | release .program => "release_program"
  | release .kernel => "release_kernel"
  | release .event => "release_event"

def ofName? (name : String) : Option EntryPoint := all.find? (fun entry => entry.name == name)

end EntryPoint
end Offload
