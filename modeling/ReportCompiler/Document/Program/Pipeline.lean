/-!
Loading data, printing and starting the embedded program.
-/

namespace ReportCompiler

namespace Program

def pipeline : List String :=
  ["  // Pipeline",
    "",
    "  function loadData(config) \x7b",
    "    if (config.sampleData != null) \x7b",
    "      log('info', 'Using embedded sample data');",
    "      return Promise.resolve(config.sampleData);",
    "    \x7d",
    "    var templateConfig = config.templateConfig || \x7b\x7d;",
    "    var path = templateConfig.dataPath || './report_data.json';",
    "    var timeout = templateConfig.fetchTimeout || 0;",
    "    var controller = typeof AbortController !== 'undefined' ? new AbortController() : null;",
    "    var timer = controller && timeout > 0 ? setTimeout(function () \x7b controller.abort(); \x7d, timeout) : null;",
    "",
    "    return Promise.resolve()",
    "      .then(function () \x7b",
    "        return fetch(path, controller ? \x7b signal: controller.signal \x7d : \x7b\x7d);",
    "      \x7d)",
    "      .then(function (response) \x7b",
    "        if (!response.ok) \x7b",
    "          log('warn', 'Could not load data file: ' + response.status + ' ' + response.statusText);",
    "          return null;",
    "        \x7d",
    "        log('info', 'Loaded data from ' + path);",
    "        return response.json();",
    "      \x7d)",
    "      .catch(function (e) \x7b",
    "        log('warn', 'Error loading data file', e && e.message);",
    "        return null;",
    "      \x7d)",
    "      .then(function (data) \x7b",
    "        if (timer) clearTimeout(timer);",
    "        return data == null ? null : data;",
    "      \x7d);",
    "  \x7d",
    "",
    "  function schedulePrint(templateConfig) \x7b",
    "    if (!templateConfig.autoPrint) return;",
    "    setTimeout(function () \x7b",
    "      try \x7b",
    "        window.print();",
    "      \x7d catch (e) \x7b",
    "        log('error', 'Print failed', e);",
    "      \x7d",
    "    \x7d, templateConfig.printDelay || 0);",
    "  \x7d",
    "",
    "  var initialized = false;",
    "",
    "  function init(config) \x7b",
    "    if (initialized) \x7b",
    "      log('warn', 'Runtime already initialized');",
    "      return Promise.resolve();",
    "    \x7d",
    "    initialized = true;",
    "    config = config || \x7b\x7d;",
    "    var templateConfig = config.templateConfig || \x7b\x7d;",
    "",
    "    return loadData(config)",
    "      .then(function (data) \x7b",
    "        if (data != null) \x7b",
    "          applyBindings(config.components || [], data);",
    "        \x7d else \x7b",
    "          log('warn', 'No data available for binding');",
    "        \x7d",
    "        return renderCharts(config, data);",
    "      \x7d)",
    "      .catch(function (e) \x7b",
    "        log('error', 'Runtime failed', e);",
    "      \x7d)",
    "      .then(function () \x7b",
    "        schedulePrint(templateConfig);",
    "      \x7d);",
    "  \x7d",
    "",
    "  function readConfig() \x7b",
    "    var element = document.getElementById(CONFIG_ELEMENT_ID);",
    "    var config = \x7b templateConfig: \x7b\x7d, components: [], sampleData: null \x7d;",
    "    if (element) \x7b",
    "      try \x7b",
    "        config = JSON.parse(element.textContent);",
    "      \x7d catch (e) \x7b",
    "        log('error', 'Runtime config could not be parsed', e);",
    "      \x7d",
    "    \x7d",
    "    return deepFreeze(config);",
    "  \x7d",
    "",
    "  window.ReportRuntime = Object.freeze(\x7b",
    "    init: init,",
    "    readConfig: readConfig,",
    "    resolvePath: resolvePath,",
    "    interpolate: interpolate,",
    "    evaluateCondition: evaluateCondition,",
    "    formatDate: formatDate",
    "  \x7d);",
    "",
    "  function start() \x7b",
    "    window.ReportRuntime.init(readConfig());",
    "  \x7d",
    "",
    "  if (document.readyState === 'loading') \x7b",
    "    document.addEventListener('DOMContentLoaded', start);",
    "  \x7d else \x7b",
    "    start();",
    "  \x7d"]

end Program

end ReportCompiler
